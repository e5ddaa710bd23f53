/-
# Settings files and options

What a settings file sets, the options of `expand` can say as well.  A request is what a command
line asks `expand` for, apart from the settings file; `Request.fill` puts what a settings file sets
in the place of the options that a request lacks.  Two runs whose files fill their requests to the
same request have the same answer, wherever the files are and however they are named.
-/
import CssMargin.Proofs.Command.SettingsFile
import CssMargin.Proofs.Command.TwoRuns
namespace CssMargin.Command

open Run

/-! ### Requests -/

/-- What a command line may ask `expand` for, apart from the settings file. -/
structure Request where
  /-- The values. -/
  values : List Text
  /-- The importance, if there is an option for it. -/
  important : Option Bool
  /-- The text of the option for the origin. -/
  origin : Option Text
  /-- The text of the option for the format. -/
  format : Option Text
deriving DecidableEq, Repr

namespace Request

/-- A request with what a settings file sets in the place of the options that it lacks. -/
def fill (r : Request) (o : Overrides) : Request :=
  { r with
    important := r.important <|> o.important
    origin := r.origin <|> o.origin.map fun y => (y.name : Text)
    format := r.format <|> o.format.map fun y => (y.name : Text) }

/-- Whether a request lacks no option. -/
structure IsComplete (r : Request) : Prop where
  /-- The importance is there. -/
  important : r.important.isSome
  /-- The origin is there. -/
  origin : r.origin.isSome
  /-- The format is there. -/
  format : r.format.isSome

lemma fill_nothing (r : Request) : r.fill Overrides.nothing = r := by
  obtain ⟨values, important, origin, format⟩ := r
  cases important <;> cases origin <;> cases format <;> rfl

lemma IsComplete.fill {r : Request} (h : r.IsComplete) (o : Overrides) : r.fill o = r := by
  obtain ⟨b, hb⟩ := Option.isSome_iff_exists.1 h.important
  obtain ⟨n, hn⟩ := Option.isSome_iff_exists.1 h.origin
  obtain ⟨f, hf⟩ := Option.isSome_iff_exists.1 h.format
  obtain ⟨values, important, origin, format⟩ := r
  cases hb
  cases hn
  cases hf
  rfl

/-- What is done for a request when settings are in force. -/
def perform (x : Surroundings) (r : Request) (st : Settings) : Run Unit :=
  expandAs x r.values (r.important.getD st.important) (r.origin.getD st.origin.name)
    (r.format.getD st.format.name)

/-- To replace standard settings, or to fill the request: what is done is the same. -/
lemma perform_override (x : Surroundings) (r : Request) (o : Overrides) :
    r.perform x (Settings.standard.override o) = (r.fill o).perform x .standard := by
  obtain ⟨values, important, origin, format⟩ := r
  obtain ⟨o₁, o₂, o₃⟩ := o
  -- an option that is there counts in both; else the file does, and else the standard
  have himportant : important.getD (o₂.getD false) = (important <|> o₂).getD false := by
    cases important <;> rfl
  have horigin : origin.getD (o₁.getD .author).name =
      (origin <|> o₁.map fun y => (y.name : Text)).getD Origin.author.name := by
    cases origin <;> cases o₁ <;> rfl
  have hformat : format.getD (o₃.getD .text).name =
      (format <|> o₃.map fun y => (y.name : Text)).getD OutputFormat.text.name := by
    cases format <;> cases o₃ <;> rfl
  simp only [perform, fill, Settings.override, Settings.standard, himportant, horigin, hformat]

/-- The whole command: without values it does not start. -/
def command (x : Surroundings) (r : Request) (config : Option Text) : Run Unit :=
  if r.values.isEmpty then throw (.usage .missingParameter)
  else settingsInForce x config >>= r.perform x

/-- The command when no settings file is there to be read. -/
def commandAlone (x : Surroundings) (r : Request) : Run Unit :=
  if r.values.isEmpty then throw (.usage .missingParameter) else r.perform x .standard

variable {x x' : Surroundings} {r : Request}

/-- A settings file that is accepted fills the request. -/
lemma outcome_command {config : Option Text} {o : Overrides} {s : Session}
    (h : FileSets s.disk (settingsName x config) o) :
    (r.command x config).outcome s = ((r.fill o).commandAlone x).outcome s := by
  have hvalues : (r.fill o).values = r.values := rfl
  rw [command, commandAlone, hvalues]
  split
  · rfl
  · rw [outcome_bind_of_ok (outcome_settingsInForce h.loadSettings), perform_override]

/-- Of the surroundings only the time is looked at. -/
lemma commandAlone_congr (h : x.time = x'.time) : r.commandAlone x = r.commandAlone x' := by
  have hlog : Run.log x = Run.log x' := by
    funext e
    rw [Run.log, Run.log, h]
  rw [commandAlone, commandAlone, perform, perform, expandAs, expandAs, hlog]

lemma follows_commandAlone (x : Surroundings) (r : Request) :
    Follows Session.withoutDisk (r.commandAlone x) := by
  rw [commandAlone]
  split
  · exact follows_throw _
  · exact follows_expandAs x _ _ _ _ showsPrints_withoutDisk (follows_log_withoutDisk x)

end Request

/-! ### Command lines -/

/-- Whether a command line makes a request to `expand`, with a level and a format for logging and,
perhaps, the name of a settings file. -/
def Requests (args : List Text) (level logFormat : Text) (r : Request)
    (config : Option Text) : Prop :=
  ∃ rest line, readHead args = .ok ⟨level, logFormat, .expand, rest⟩ ∧
    sortArguments Name.expand.options true rest = .ok line ∧
    line.others = r.values ∧
    (line.lastFlag? ["--important", "--no-important"]).map (· == ("--important" : Text)) =
      r.important ∧
    line.value? "--origin" = r.origin ∧
    line.value? "--format" = r.format ∧
    line.value? "--config" = config

lemma Requests.outcome_program {args : List Text} {level logFormat : Text} {r : Request}
    {config : Option Text} (h : Requests args level logFormat r config) (x : Surroundings)
    (s : Session) : (program x args).outcome s =
      (setUpLogging level logFormat >>= fun _ => r.command x config).outcome s := by
  obtain ⟨rest, line, hhead, hline, hvalues, himportant, horigin, hformat, hconfig⟩ := h
  have htask : readTask .expand rest = if r.values.isEmpty then .error .missingParameter
      else .ok (.expand r.values r.important r.origin r.format config) := by
    rw [readTask, hline, ← hvalues, ← himportant, ← horigin, ← hformat, ← hconfig]
    rfl
  rw [outcome_program_of_readHead hhead, htask, Request.command]
  split <;> rfl

/-- What a run says: how it ends and what it prints. -/
def answer (o : Except Halt Unit × Session) : Except Halt Unit × String × String :=
  (o.1, o.2.output, o.2.errors)

lemma answer_eq_of_withoutDisk {o o' : Except Halt Unit × Session} (hend : o.1 = o'.1)
    (h : o.2.withoutDisk = o'.2.withoutDisk) : answer o = answer o' := by
  obtain ⟨-, houtput, herrors⟩ := Session.withoutDisk_eq_iff.1 h
  rw [answer, answer, hend, houtput, herrors]

/-- Whatever the disks are, setting the logger up stops in the same way or has the same result. -/
lemma setUpLogging_alike (level logFormat : Text) (d d' : Disk) :
    (∃ e t t', (setUpLogging level logFormat).outcome (.start d) = (.error e, t) ∧
      (setUpLogging level logFormat).outcome (.start d') = (.error e, t') ∧
      t.withoutDisk = t'.withoutDisk) ∨
    ∃ l, (setUpLogging level logFormat).outcome (.start d) =
        (.ok (), { Session.start d with logger := l }) ∧
      (setUpLogging level logFormat).outcome (.start d') =
        (.ok (), { Session.start d' with logger := l }) := by
  by_cases h : AcceptsLogging level logFormat
  · right
    rw [setUpLogging, if_pos (Bool.and_eq_true_iff.2 h)]
    cases Log.Logger.setUp level logFormat with
    | ok l => exact ⟨l, rfl, rfl⟩
    | error f => exact ⟨Log.Logger.fresh, rfl, rfl⟩
  · left
    obtain ⟨ps, hps⟩ := exists_setUpLogging_eq_stop h
    rw [hps]
    exact ⟨_, _, _, outcome_stop 2 ps _, outcome_stop 2 ps _, rfl⟩

section TwoRuns

variable {x x' : Surroundings} {d d' : Disk} {args args' : List Text} {level logFormat : Text}
  {r r' : Request} {config config' : Option Text} {o o' : Overrides}

/-- If what the files set fills the requests to the same request, the answers are the same. -/
lemma answer_eq_of_fill_eq (htime : x.time = x'.time) (h : Requests args level logFormat r config)
    (h' : Requests args' level logFormat r' config') (ho : FileSets d (settingsName x config) o)
    (ho' : FileSets d' (settingsName x' config') o') (hfill : r.fill o = r'.fill o') :
    answer (execute x args d) = answer (execute x' args' d') := by
  rw [execute_eq_outcome, execute_eq_outcome, h.outcome_program, h'.outcome_program]
  rcases setUpLogging_alike level logFormat d d' with ⟨e, t, t', ht, ht', hsame⟩ | ⟨l, hl, hl'⟩
  · rw [outcome_bind_of_error ht, outcome_bind_of_error ht']
    exact answer_eq_of_withoutDisk rfl hsame
  · rw [outcome_bind_of_ok hl, outcome_bind_of_ok hl', Request.outcome_command ho,
      Request.outcome_command ho', hfill, Request.commandAlone_congr htime]
    obtain ⟨hend, hsame⟩ := Request.follows_commandAlone x' (r'.fill o')
      { Session.start d with logger := l } { Session.start d' with logger := l } rfl
    exact answer_eq_of_withoutDisk hend hsame

end TwoRuns

/-! ### Naming the settings file -/

/-- Whether the settings file of a run has a name: the command line names it, or it names none and
the surroundings do. -/
inductive NamesFile (x : Surroundings) (file : Text) : Option Text → Prop where
  /-- With an option. -/
  | option (hne : file ≠ ("" : Text)) : NamesFile x file (some file)
  /-- By the surroundings, when there is no option. -/
  | surroundings (hne : file ≠ ("" : Text)) (hx : x.settingsFile = some file) :
    NamesFile x file none
  /-- By the surroundings, when the option is empty. -/
  | surroundingsEmpty (hne : file ≠ ("" : Text)) (hx : x.settingsFile = some file) :
    NamesFile x file (some ("" : Text))

/-- Whether neither the command line nor the surroundings name a settings file. -/
def NamesNoFile (x : Surroundings) (config : Option Text) : Prop :=
  (config = none ∨ config = some ("" : Text)) ∧
    (x.settingsFile = none ∨ x.settingsFile = some ("" : Text))

lemma NamesFile.settingsName_eq {x : Surroundings} {file : Text} {config : Option Text}
    (h : NamesFile x file config) : settingsName x config = some file ∧ file ≠ ("" : Text) := by
  cases h with
  | option hne =>
    refine ⟨?_, hne⟩
    rw [settingsName, Option.filter_some, if_pos (decide_eq_true hne)]
    rfl
  | surroundings hne hx => exact ⟨hx, hne⟩
  | surroundingsEmpty hne hx => exact ⟨hx, hne⟩

/-- What the file sets is known when it can be loaded. -/
lemma NamesFile.fileSets {x : Surroundings} {file : Text} {config : Option Text} {d : Disk}
    {o : Overrides} (h : NamesFile x file config)
    (ho : loadOverrides d (Path.ofText file) = .ok o) : FileSets d (settingsName x config) o := by
  obtain ⟨hname, hne⟩ := h.settingsName_eq
  rw [hname]
  exact .named hne ho

lemma NamesNoFile.fileSets {x : Surroundings} {config : Option Text} (h : NamesNoFile x config)
    (d : Disk) : FileSets d (settingsName x config) Overrides.nothing := by
  obtain ⟨rfl | rfl, hx | hx⟩ := h
  all_goals
    change FileSets d x.settingsFile _
    rw [hx]
  · exact .unnamed
  · exact .emptyName
  · exact .unnamed
  · exact .emptyName

/-! ### Writing a request as a command line -/

section Sorting

variable {t : OptionTable} {mixed : Bool} {name : Text} {rest : List Text} {line : Sorted}

/-- Whether an option is known that takes the next argument as its value. -/
def OptionTable.Takes (t : OptionTable) (name : Text) : Prop :=
  name ≠ ("--" : Text) ∧ isOption name = true ∧ splitValue name = (name, none) ∧
    t.valued.contains name = true

/-- Whether a flag is known. -/
def OptionTable.Knows (t : OptionTable) (name : Text) : Prop :=
  name ≠ ("--" : Text) ∧ isOption name = true ∧ splitValue name = (name, none) ∧
    t.valued.contains name = false ∧ t.flags.contains name = true

instance (t : OptionTable) (name : Text) : Decidable (t.Takes name) :=
  inferInstanceAs (Decidable (_ ∧ _ ∧ _ ∧ _))

instance (t : OptionTable) (name : Text) : Decidable (t.Knows name) :=
  inferInstanceAs (Decidable (_ ∧ _ ∧ _ ∧ _ ∧ _))

lemma sortArguments_value (h : t.Takes name) (v : Text)
    (hrest : sortArguments t mixed rest = .ok line) :
    sortArguments t mixed (name :: v :: rest) = .ok (line.addValue name v) := by
  obtain ⟨hne, hoption, hsplit, hvalued⟩ := h
  rw [sortArguments, if_neg hne, if_pos hoption, hsplit]
  dsimp only
  rw [if_pos hvalued, hrest]
  rfl

lemma sortArguments_flag (h : t.Knows name) (hrest : sortArguments t mixed rest = .ok line) :
    sortArguments t mixed (name :: rest) = .ok (line.addFlag name) := by
  obtain ⟨hne, hoption, hsplit, hvalued, hflag⟩ := h
  rw [sortArguments, if_neg hne, if_pos hoption, hsplit]
  dsimp only
  rw [if_neg (by rw [hvalued]; exact Bool.false_ne_true), if_pos hflag, hrest]
  rfl

end Sorting

/-- The flag for an importance. -/
def importanceFlag (b : Bool) : Text := if b then "--important" else "--no-important"

/-- An option with its value as the next argument, or nothing. -/
def valuedWords (name : Text) : Option Text → List Text
  | none => []
  | some v => [name, v]

/-- The arguments of a request, with the name of a settings file.  Two hyphens keep the values from
being taken for options. -/
def requestArguments (r : Request) (config : Option Text) : List Text :=
  (r.important.map importanceFlag).toList ++ (valuedWords "--origin" r.origin ++
    (valuedWords "--format" r.format ++
      (valuedWords "--config" config ++ ("--" : Text) :: r.values)))

/-- The whole command line. -/
def commandLine (level logFormat : Text) (r : Request) (config : Option Text) : List Text :=
  "--log-level" :: level :: "--log-format" :: logFormat :: "expand" :: requestArguments r config

/-- An option with a value as it is sorted. -/
def valuedPair (name : Text) (v : Option Text) : List (Text × Text) :=
  (v.map fun w => (name, w)).toList

lemma sortArguments_valuedWords {t : OptionTable} {mixed : Bool} {name : Text}
    {rest flags others : List Text} {values : List (Text × Text)} (h : t.Takes name)
    (v : Option Text) (hrest : sortArguments t mixed rest = .ok ⟨flags, values, others⟩) :
    sortArguments t mixed (valuedWords name v ++ rest) =
      .ok ⟨flags, valuedPair name v ++ values, others⟩ := by
  cases v with
  | none => exact hrest
  | some v => exact sortArguments_value h v hrest

lemma sortArguments_requestArguments (r : Request) (config : Option Text) :
    sortArguments Name.expand.options true (requestArguments r config) =
      .ok ⟨(r.important.map importanceFlag).toList, valuedPair "--origin" r.origin ++
        (valuedPair "--format" r.format ++ (valuedPair "--config" config ++ [])), r.values⟩ := by
  have hvalues : sortArguments Name.expand.options true (valuedWords "--origin" r.origin ++
      (valuedWords "--format" r.format ++
        (valuedWords "--config" config ++ ("--" : Text) :: r.values))) =
      .ok ⟨[], valuedPair "--origin" r.origin ++ (valuedPair "--format" r.format ++
        (valuedPair "--config" config ++ [])), r.values⟩ :=
    sortArguments_valuedWords (by decide +kernel) r.origin
      (sortArguments_valuedWords (by decide +kernel) r.format
        (sortArguments_valuedWords (by decide +kernel) config (sortArguments_end _ _ _)))
  rw [requestArguments]
  cases r.important with
  | none => exact hvalues
  | some b =>
    refine sortArguments_flag ?_ hvalues
    cases b <;> decide +kernel

lemma readHead_commandLine (level logFormat : Text) (r : Request) (config : Option Text) :
    readHead (commandLine level logFormat r config) =
      .ok ⟨level, logFormat, .expand, requestArguments r config⟩ := by
  -- the name of the command ends the options before it
  have hname : sortArguments rootOptions false ("expand" :: requestArguments r config) =
      .ok ⟨[], [], "expand" :: requestArguments r config⟩ := by
    rw [sortArguments, if_neg (by decide), if_neg (by decide +kernel)]
    rfl
  have hformat : rootOptions.Takes "--log-format" := by decide +kernel
  have hlevel : rootOptions.Takes "--log-level" := by decide +kernel
  have hcommand : Name.ofText? "expand" = some .expand := Name.ofText?_text .expand
  rw [readHead, commandLine, if_neg (by rintro ⟨⟩),
    sortArguments_value hlevel level (sortArguments_value hformat logFormat hname), ok_bind]
  simp only [Sorted.addValue]
  rw [hcommand]
  simp [Sorted.value?]

/-- Every request can be made. -/
lemma requests_commandLine (level logFormat : Text) (r : Request) (config : Option Text) :
    Requests (commandLine level logFormat r config) level logFormat r config := by
  refine ⟨_, _, readHead_commandLine level logFormat r config,
    sortArguments_requestArguments r config, rfl, ?_, ?_, ?_, ?_⟩
  · rcases r.important with _ | _ | _ <;> simp [Sorted.lastFlag?, importanceFlag]
  all_goals
    cases r.origin <;> cases r.format <;> cases config <;> simp [Sorted.value?, valuedPair]

/-! ### Files and options -/

/-- **A settings file says what options say.**  Let a command line make a request to `expand` in a
run that has a settings file, however it is named, and let what the file sets be accepted.  Then
the answer, which is how the run ends and what it prints on both outputs, is the same as

* in a run without a settings file, of any command line that makes the request filled with what
  the file sets;
* in a run with a settings file that sets the same, such as the same file named in another way, of
  any command line that makes the same request;
* if the request lacks no option, in a run with any settings file that is accepted, of any command
  line that makes the same request.

The second run is at the time of the first; its disk may be another one. -/
theorem execute_eq_spelledOut (x x' : Surroundings) (d d' : Disk) {args : List Text}
    {level logFormat file : Text} {r : Request} {config : Option Text} {o : Overrides}
    (htime : x'.time = x.time) (hargs : Requests args level logFormat r config)
    (hfile : NamesFile x file config) (hload : loadOverrides d (Path.ofText file) = .ok o) :
    (∀ args' config', Requests args' level logFormat (r.fill o) config' →
      NamesNoFile x' config' → answer (execute x' args' d') = answer (execute x args d)) ∧
    (∀ args' config' file', Requests args' level logFormat r config' →
      NamesFile x' file' config' → loadOverrides d' (Path.ofText file') = .ok o →
      answer (execute x' args' d') = answer (execute x args d)) ∧
    (r.IsComplete → ∀ args' config' file' o', Requests args' level logFormat r config' →
      NamesFile x' file' config' → loadOverrides d' (Path.ofText file') = .ok o' →
      answer (execute x' args' d') = answer (execute x args d)) := by
  have hsets := hfile.fileSets hload
  refine ⟨?_, ?_, ?_⟩
  · intro args' config' hargs' hnone
    exact answer_eq_of_fill_eq htime hargs' hargs (hnone.fileSets d') hsets (r.fill o).fill_nothing
  · intro args' config' file' hargs' hfile' hload'
    exact answer_eq_of_fill_eq htime hargs' hargs (hfile'.fileSets hload') hsets rfl
  · intro hcomplete args' config' file' o' hargs' hfile' hload'
    refine answer_eq_of_fill_eq htime hargs' hargs (hfile'.fileSets hload') hsets ?_
    rw [hcomplete.fill, hcomplete.fill]

/-- A disk with two settings files. -/
def twoSettings : Disk :=
  ⟨["work"], [
    (["work", "user.yaml"], .file (Text.encodeUtf8 "origin: user\nimportant: false\n".toList)),
    (["work", "json.yaml"], .file (Text.encodeUtf8 "format: json\n".toList))]⟩

/-- An explicit `false` is spelled out too, an empty option names no file, and when all options are
there, even with an unknown origin, it does not matter which of the two files is read. -/
theorem execute_eq_spelledOut_twoSettings :
    let time : Moment := ⟨⟨2000, 1, 1⟩, 0, 0, 0, 0, some 0⟩
    let user : Text := "user.yaml"
    let json : Text := "json.yaml"
    let yaml : Text := "yaml"
    let values : List Text := ["1px", "auto"]
    let x : Surroundings := ⟨time, some user, fun _ => ""⟩
    let x' : Surroundings := ⟨time, none, fun _ => ""⟩
    let r : Request := ⟨values, none, none, some yaml⟩
    let full : Request := ⟨values, some true, some ("nobody" : Text), some yaml⟩
    let args : List Text := ["expand", "1px", "--format=yaml", "auto", "--config", ""]
    let args' : List Text :=
      ["expand", "--no-important", "--origin", "user", "--format", "yaml", "1px", "auto"]
    Requests args "WARNING" "text" r (some ("" : Text)) ∧
    loadOverrides twoSettings (Path.ofText user) = .ok ⟨some .user, some false, none⟩ ∧
    Requests args' "WARNING" "text" (r.fill ⟨some .user, some false, none⟩) none ∧
    answer (execute x' args' twoSettings) = answer (execute x args twoSettings) ∧
    answer (execute x' (commandLine "WARNING" "text" r (some user)) twoSettings) =
      answer (execute x args twoSettings) ∧
    answer (execute x' (commandLine "INFO" "json" full (some json)) twoSettings) =
      answer (execute x (commandLine "INFO" "json" full none) twoSettings) := by
  intro time user json yaml values x x' r full args args'
  have hargs : Requests args "WARNING" "text" r (some ("" : Text)) :=
    ⟨(["1px", "--format=yaml", "auto", "--config", ""] : List Text),
      ⟨[], ([("--format", "yaml"), ("--config", "")] : List (Text × Text)), values⟩,
      by decide +kernel⟩
  have hargs' : Requests args' "WARNING" "text" (r.fill ⟨some .user, some false, none⟩) none :=
    ⟨(["--no-important", "--origin", "user", "--format", "yaml", "1px", "auto"] : List Text),
      ⟨(["--no-important"] : List Text),
        ([("--origin", "user"), ("--format", "yaml")] : List (Text × Text)), values⟩,
      by decide +kernel⟩
  have huser : loadOverrides twoSettings (Path.ofText user) =
      .ok ⟨some .user, some false, none⟩ := by decide +kernel
  have hjson : loadOverrides twoSettings (Path.ofText json) =
      .ok ⟨none, none, some .json⟩ := by decide +kernel
  have hnamed : NamesFile x user (some ("" : Text)) := .surroundingsEmpty (by decide) rfl
  obtain ⟨hspelled, hsame, -⟩ :=
    execute_eq_spelledOut x x' twoSettings twoSettings rfl hargs hnamed huser
  refine ⟨hargs, huser, hargs', ?_, ?_, ?_⟩
  · exact hspelled args' none hargs' ⟨.inl rfl, .inl rfl⟩
  · exact hsame _ _ user (requests_commandLine "WARNING" "text" r (some user))
      (.option (by decide)) huser
  · have hfull := requests_commandLine "INFO" "json" full none
    obtain ⟨-, -, hany⟩ := execute_eq_spelledOut x x' twoSettings twoSettings rfl hfull
      (.surroundings (by decide) rfl) huser
    exact hany ⟨rfl, rfl, rfl⟩ _ _ json _
      (requests_commandLine "INFO" "json" full (some json)) (.option (by decide)) hjson

end CssMargin.Command
