/-
# A check predicts an expansion

`validate` looks at a file without settings, and `expand-file` with the settings in force.  As long
as these are valid settings, and no output file is asked for, the two end in the same way: with the
same exit code, or with the same failure, and if they do not end well they report the same.  The
outcome is called for by the file alone; `JudgedBy` says which one that is, and both commands are
shown to have it.

There is one exception.  A check does not look at the characters of a value, and a value from a
JSON or YAML escape can hold one half of a surrogate pair, for which UTF-8 has no bytes.  Printing
such a value in a line is a failure, after the check has passed the file.
-/
import CssMargin.Proofs.Command.Outcome
import CssMargin.Proofs.Shorthand.Defaults
import CssMargin.Proofs.Shorthand.Expansion
namespace CssMargin.Command

open Run

/-! ### Command lines -/

/-- Whether a command line asks for a task, with a level and a format for logging. -/
def Asks (args : List Text) (level format : Text) (t : Task) : Prop :=
  ∃ head, readHead args = .ok head ∧ head.logLevel = level ∧ head.logFormat = format ∧
    readTask head.name head.rest = .ok t

/-- The program sets the logger up and performs the task that it is asked for. -/
lemma outcome_program {args : List Text} {level format : Text} {t : Task}
    (h : Asks args level format t) (x : Surroundings) (s : Session) :
    (program x args).outcome s =
      (setUpLogging level format >>= fun _ => perform x t).outcome s := by
  obtain ⟨head, hhead, rfl, rfl, htask⟩ := h
  rw [outcome_program_of_readHead hhead, htask]
  rfl

/-- Whether the options for logging are accepted. -/
def AcceptsLogging (level format : Text) : Prop :=
  commandLevels.any (fun name => Log.capitals level == name) = true ∧
    Log.LogFormat.all.any (fun f => format == f.name) = true

instance (level format : Text) : Decidable (AcceptsLogging level format) :=
  inferInstanceAs (Decidable (_ ∧ _))

section Logging

variable {level format : Text}

/-- Setting the logger up changes the logger and nothing else. -/
lemma exists_outcome_setUpLogging (h : AcceptsLogging level format) (s : Session) :
    ∃ l, (setUpLogging level format).outcome s = (.ok (), { s with logger := l }) := by
  rw [setUpLogging, if_pos (Bool.and_eq_true_iff.2 h)]
  split
  · rename_i l _
    exact ⟨l, rfl⟩
  · exact ⟨s.logger, rfl⟩

lemma exists_setUpLogging_eq_stop (h : ¬ AcceptsLogging level format) :
    ∃ ps, setUpLogging level format = stop 2 ps := by
  rw [setUpLogging, if_neg fun hand => h (Bool.and_eq_true_iff.1 hand)]
  exact ⟨_, rfl⟩

end Logging

/-- A run whose logging options are accepted performs its task, with a logger that was set up. -/
lemma exists_execute_eq_perform {args : List Text} {level format : Text} {t : Task}
    (hasks : Asks args level format t) (hlogging : AcceptsLogging level format) (x : Surroundings)
    (d : Disk) :
    ∃ l, execute x args d = (perform x t).outcome { Session.start d with logger := l } := by
  obtain ⟨l, hl⟩ := exists_outcome_setUpLogging hlogging (.start d)
  exact ⟨l, by rw [execute_eq_outcome, outcome_program hasks, outcome_bind_of_ok hl]⟩

/-! ### The steps of the two commands -/

lemma outcome_settingsInForce {x : Surroundings} {config : Option Text} {s : Session}
    {st : Settings} (h : loadSettings s.disk (settingsName x config) = .ok st) :
    (settingsInForce x config).outcome s = (.ok st, s) := by
  rw [settingsInForce, outcome_bind_of_ok (outcome_get s), h]
  rfl

lemma outcome_load (path : Text) (s : Session) :
    (load path).outcome s = match loadDocument s.disk (Path.ofText path) with
      | .ok d => (.ok (.ok d), s)
      | .error (.fault f) => (.ok (.error f), s)
      | .error (.failure f) => (.error (.failure f), s) := by
  rw [load, outcome_bind_of_ok (outcome_get s)]
  cases loadDocument s.disk (Path.ofText path) with
  | ok d => rfl
  | error e => cases e <;> rfl

/-! ### The expansion of a file -/

/-- The disk and what was printed on the standard output. -/
def Session.visible (s : Session) : Disk × String := (s.disk, s.output)

/-- What the expansion of a file does at the end: write the declarations to a file and say so, or
print them. -/
def deliver (out : Option Text) (f : OutputFormat) (ds : List Declaration) : Run Unit :=
  match out with
  | some out => do
    writeListing out ds
    Run.printLine (("OK: wrote " ++ toString ds.length ++ " declarations to " : String) ++ out)
  | none => printListing .expandFile f ds

/-- Whether no stage of the expansion of a file stops it, so that it comes to an output format and
to the shorthands of the file. -/
def Accepts (x : Surroundings) (disk : Disk) (path : Text) (format config : Option Text)
    (f : OutputFormat) (ss : List Shorthand) : Prop :=
  ∃ st d, loadSettings disk (settingsName x config) = .ok st ∧
    OutputFormat.ofName? (format.getD st.format.name) = some f ∧
    loadDocument disk (Path.ofText path) = .ok d ∧
    d.check ⟨.text st.origin.name, .bool st.important⟩ = .ok ss

/-- The stages of the expansion of a file, up to the output format and the shorthands. -/
def stages (x : Surroundings) (path : Text) (format config : Option Text) :
    Run (OutputFormat × List Shorthand) := do
  let settings ← settingsInForce x config
  match OutputFormat.ofName? (format.getD settings.format.name) with
  | none => Run.stop 2 [unknownListingFormat (format.getD settings.format.name)]
  | some f =>
    match ← load path with
    | .error e => Run.stop 1 [loadProblem x path e]
    | .ok d =>
      match d.check ⟨.text settings.origin.name, .bool settings.important⟩ with
      | .error ps => Run.stop 2 ps
      | .ok ss => pure (f, ss)

/-- What is logged about the expansion of a file: an event for each shorthand, and one for all. -/
def trace (path : Text) (ss : List Shorthand) : List Log.Event :=
  (ss.map fun s => .expanding s.index s.values.length) ++ [.fileExpanded ss.length path]

/-- Log the expansion of a file. -/
def tell (x : Surroundings) (path : Text) (ss : List Shorthand) : Run Unit := do
  ss.forM fun s => Run.log x (.expanding s.index s.values.length)
  Run.log x (.fileExpanded ss.length path)

lemma performExpandFile_eq_bind (x : Surroundings) (path : Text)
    (out format config : Option Text) :
    performExpandFile x path out format config = (stages x path format config >>= fun r =>
      tell x path r.2 >>= fun _ => deliver out r.1 (r.2.flatMap Shorthand.expand)) := by
  rw [performExpandFile, stages, bind_assoc]
  congr 1
  funext st
  dsimp only
  cases OutputFormat.ofName? (format.getD st.format.name) with
  | none => rfl
  | some f =>
    dsimp only
    rw [bind_assoc]
    congr 1
    funext r
    cases r with
    | error e => rfl
    | ok d =>
      dsimp only
      cases d.check ⟨.text st.origin.name, .bool st.important⟩ with
      | error ps => rfl
      | ok ss =>
        rw [pure_bind, tell, bind_assoc]
        cases out <;> rfl

/-- What a logger writes about several events. -/
def written (l : Log.Logger) (time : Moment) (es : List Log.Event) : String :=
  String.join (es.map fun e => l.write (e.record time))

section ExpandFile

variable {x : Surroundings} {path : Text} {format config : Option Text} {s : Session}

/-- Logging something about each of several things writes what the logger makes of it. -/
lemma outcome_logEach {α : Type} (x : Surroundings) (e : α → Log.Event) (xs : List α)
    (s : Session) : (xs.forM fun a => Run.log x (e a)).outcome s =
      (.ok (), { s with errors := s.errors ++ written s.logger x.time (xs.map e) }) := by
  induction xs generalizing s with
  | nil =>
    change (Except.ok (), s) = (.ok (), { s with errors := s.errors ++ "" })
    rw [String.append_empty]
  | cons a r ih =>
    have hcons : (a :: r).forM (fun a => Run.log x (e a)) =
        (Run.log x (e a) >>= fun _ => r.forM fun a => Run.log x (e a)) := rfl
    rw [hcons, outcome_bind_of_ok (outcome_log x (e a) s), ih]
    simp only [written, List.map_cons, String.join_cons, String.append_assoc]

lemma outcome_tell (x : Surroundings) (path : Text) (ss : List Shorthand) (s : Session) :
    (tell x path ss).outcome s =
      (.ok (), { s with errors := s.errors ++ written s.logger x.time (trace path ss) }) := by
  rw [tell, outcome_bind_of_ok (outcome_logEach x _ ss s), outcome_log]
  simp only [written, trace, List.map_append, List.map_cons, List.map_nil, String.join_append,
    String.join_cons, String.join_nil, String.append_empty, String.append_assoc]

/-- When nothing stops them, the stages change nothing. -/
lemma outcome_stages {f : OutputFormat} {ss : List Shorthand}
    (h : Accepts x s.disk path format config f ss) :
    (stages x path format config).outcome s = (.ok (f, ss), s) := by
  obtain ⟨st, d, hst, hf, hd, hcheck⟩ := h
  have hload := outcome_load path s
  rw [hd] at hload
  rw [stages, outcome_bind_of_ok (outcome_settingsInForce hst), hf]
  dsimp only
  rw [outcome_bind_of_ok hload]
  dsimp only
  rw [hcheck]
  rfl

/-- When no stage stops it, the expansion of a file delivers its declarations. -/
lemma outcome_performExpandFile {f : OutputFormat} {ss : List Shorthand}
    (h : Accepts x s.disk path format config f ss) (out : Option Text) :
    (performExpandFile x path out format config).outcome s =
      (deliver out f (ss.flatMap Shorthand.expand)).outcome
        { s with errors := s.errors ++ written s.logger x.time (trace path ss) } := by
  rw [performExpandFile_eq_bind, outcome_bind_of_ok (outcome_stages h),
    outcome_bind_of_ok (outcome_tell x path ss s)]

/-- Without an output file it ends as the printing of the declarations does. -/
lemma fst_outcome_performExpandFile {f : OutputFormat} {ss : List Shorthand}
    (h : Accepts x s.disk path format config f ss) :
    ((performExpandFile x path none format config).outcome s).1 =
      listingEnd f (ss.flatMap Shorthand.expand) := by
  rw [outcome_performExpandFile h, deliver, fst_outcome_printListing]

end ExpandFile

/-! ### Values that cannot be printed -/

/-- Whether the expansion of a file comes to print, in lines, a value with half a surrogate pair. -/
def PrintsHalf (x : Surroundings) (disk : Disk) (path : Text) (format config : Option Text) :
    Prop :=
  ∃ ss, Accepts x disk path format config .text ss ∧
    ∃ s ∈ ss, ∃ v ∈ s.values, v.isWhole = false

section PrintsHalf

variable {x : Surroundings} {disk : Disk} {path : Text} {format config : Option Text}

lemma listingEnd_of_not_printsHalf (h : ¬ PrintsHalf x disk path format config)
    {f : OutputFormat} {ss : List Shorthand} (hss : Accepts x disk path format config f ss) :
    listingEnd f (ss.flatMap Shorthand.expand) = .ok () := by
  refine listingEnd_eq_ok fun hf => ?_
  subst hf
  obtain ⟨st, d, -, -, -, hcheck⟩ := id hss
  refine (forall_isWhole_flatMap_expand hcheck).2 fun s hs v hv => ?_
  by_contra hhalf
  exact h ⟨ss, hss, s, hs, v, hv, Bool.eq_false_iff.2 hhalf⟩

lemma exists_listingEnd_of_printsHalf {ss : List Shorthand}
    (hss : Accepts x disk path format config .text ss)
    (hhalf : ∃ s ∈ ss, ∃ v ∈ s.values, v.isWhole = false) :
    ∃ half, listingEnd .text (ss.flatMap Shorthand.expand) = .error (.failure (.stray half)) := by
  obtain ⟨st, d, -, -, -, hcheck⟩ := hss
  refine exists_listingEnd_eq_stray ?_
  by_contra hall
  obtain ⟨s, hs, v, hv, hfalse⟩ := hhalf
  have hwhole : ∀ y ∈ ss.flatMap Shorthand.expand, y.value.isWhole = true := by
    intro y hy
    by_contra hne
    exact hall ⟨y, hy, Bool.eq_false_iff.2 hne⟩
  rw [(forall_isWhole_flatMap_expand hcheck).1 hwhole s hs v hv] at hfalse
  cases hfalse

end PrintsHalf

/-! ### What a file calls for -/

/-- Whether an outcome is the one that the file at a path calls for. -/
structure JudgedBy (x : Surroundings) (path : Text) (s : Session)
    (o : Except Halt Unit × Session) : Prop where
  /-- A failure of loading it. -/
  failure : ∀ f, loadDocument s.disk (Path.ofText path) = .error (.failure f) →
    o = (.error (.failure f), s)
  /-- The report of its fault, with the exit code 1. -/
  fault : ∀ f, loadDocument s.disk (Path.ofText path) = .error (.fault f) →
    o = (stop 1 [loadProblem x path f] : Run Unit).outcome s
  /-- The report of its problems, with the exit code 2. -/
  problems : ∀ d ps, loadDocument s.disk (Path.ofText path) = .ok d →
    d.check .standard = .error ps → o = (stop 2 ps : Run Unit).outcome s
  /-- A good end. -/
  accepted : ∀ d ss, loadDocument s.disk (Path.ofText path) = .ok d →
    d.check .standard = .ok ss → o.1 = .ok ()

/-- Two outcomes that the same file calls for end alike, and unless they end well they are the
same. -/
lemma JudgedBy.agree {x : Surroundings} {path : Text} {s : Session}
    {o o' : Except Halt Unit × Session} (h : JudgedBy x path s o) (h' : JudgedBy x path s o') :
    o.1 = o'.1 ∧ (o.1 ≠ .ok () → o = o') := by
  -- what the file calls for is one outcome, unless it calls for a good end
  suffices hor : o = o' ∨ o.1 = .ok () ∧ o'.1 = .ok () by
    rcases hor with rfl | ⟨hok, hok'⟩
    · exact ⟨rfl, fun _ => rfl⟩
    · exact ⟨hok.trans hok'.symm, fun hne => absurd hok hne⟩
  cases hload : loadDocument s.disk (Path.ofText path) with
  | error e =>
    left
    cases e with
    | fault f => rw [h.fault f hload, h'.fault f hload]
    | failure f => rw [h.failure f hload, h'.failure f hload]
  | ok d =>
    cases hcheck : d.check .standard with
    | error ps => exact Or.inl (by rw [h.problems d ps hload hcheck, h'.problems d ps hload hcheck])
    | ok ss => exact Or.inr ⟨h.accepted d ss hload hcheck, h'.accepted d ss hload hcheck⟩

lemma judgedBy_performValidate (x : Surroundings) (path : Text) (s : Session) :
    JudgedBy x path s ((performValidate x path "text").outcome s) := by
  have hload := outcome_load path s
  rw [performValidate, if_pos (by decide)]
  constructor
  · intro f h
    rw [h] at hload
    exact outcome_bind_of_error hload
  · intro f h
    rw [h] at hload
    exact outcome_bind_of_ok hload
  · intro d ps h hcheck
    rw [h] at hload
    rw [outcome_bind_of_ok hload]
    dsimp only
    rw [hcheck]
    rfl
  · intro d ss h hcheck
    rw [h] at hload
    rw [outcome_bind_of_ok hload]
    dsimp only
    rw [hcheck]
    dsimp only
    rw [if_neg (by decide), outcome_printLine_coe]

/-- What is accepted with the settings in force is accepted by a check. -/
lemma exists_check_standard {x : Surroundings} {disk : Disk} {path : Text}
    {format config : Option Text} {f : OutputFormat} {ss : List Shorthand}
    (h : Accepts x disk path format config f ss) :
    ∃ d ss', loadDocument disk (Path.ofText path) = .ok d ∧ d.check .standard = .ok ss' := by
  obtain ⟨st, d, -, -, hd, hcheck⟩ := h
  refine ⟨d, ?_⟩
  cases hown : d.check .standard with
  | ok ss' => exact ⟨ss', hd, rfl⟩
  | error ps =>
    rw [← check_eq_error_iff_of_valid ⟨st.origin, st.important, rfl⟩ EntryDefaults.valid_standard,
      hcheck] at hown
    cases hown

/-- The settings in force and the format lead to a format of output. -/
lemma exists_ofName?_getD {format : Option Text} (st : Settings)
    (hformat : ∀ f, format = some f → (OutputFormat.ofName? f).isSome = true) :
    ∃ f, OutputFormat.ofName? (format.getD st.format.name) = some f := by
  cases format with
  | none => exact ⟨st.format, OutputFormat.ofName?_name _⟩
  | some n => exact Option.isSome_iff_exists.1 (hformat n rfl)

lemma judgedBy_performExpandFile {x : Surroundings} {path : Text} {format config : Option Text}
    {s : Session} {st : Settings} (hst : loadSettings s.disk (settingsName x config) = .ok st)
    (hformat : ∀ f, format = some f → (OutputFormat.ofName? f).isSome = true)
    (hhalf : ¬ PrintsHalf x s.disk path format config) :
    JudgedBy x path s ((performExpandFile x path none format config).outcome s) := by
  obtain ⟨f, hf⟩ := exists_ofName?_getD st hformat
  have hvalid : EntryDefaults.Valid ⟨.text st.origin.name, .bool st.important⟩ :=
    ⟨st.origin, st.important, rfl⟩
  have hload := outcome_load path s
  have haccepted : ∀ d ss, loadDocument s.disk (Path.ofText path) = .ok d →
      d.check .standard = .ok ss →
      ((performExpandFile x path none format config).outcome s).1 = .ok () := by
    intro d ss h hcheck
    -- the shorthands depend on the settings, but that there are some does not
    cases hown : d.check ⟨.text st.origin.name, .bool st.important⟩ with
    | error ps =>
      rw [check_eq_error_iff_of_valid hvalid EntryDefaults.valid_standard, hcheck] at hown
      cases hown
    | ok shorthands =>
      have hss : Accepts x s.disk path format config f shorthands := ⟨st, d, hst, hf, h, hown⟩
      rw [fst_outcome_performExpandFile hss, listingEnd_of_not_printsHalf hhalf hss]
  rw [performExpandFile, outcome_bind_of_ok (outcome_settingsInForce hst)] at haccepted ⊢
  dsimp only at haccepted ⊢
  rw [hf] at haccepted ⊢
  refine ⟨?_, ?_, ?_, haccepted⟩
  · intro e h
    rw [h] at hload
    exact outcome_bind_of_error hload
  · intro e h
    rw [h] at hload
    exact outcome_bind_of_ok hload
  · intro d ps h hcheck
    rw [h] at hload
    dsimp only
    rw [outcome_bind_of_ok hload]
    dsimp only
    rw [(check_eq_error_iff_of_valid hvalid EntryDefaults.valid_standard).2 hcheck]

/-- **Prediction.**  Whatever the file at a path holds, and whatever valid settings are in force, a
command line that asks for its expansion to the standard output and one that asks for its check end
with the same exit code or the same failure, and if this is not a good end, they print the same on
the standard error; only if the expansion comes to print half a surrogate pair, the check passes the
file and the expansion fails. -/
theorem validate_predicts_expandFile (x : Surroundings) (d : Disk)
    {expanding checking : List Text} {level logFormat path : Text} {format config : Option Text}
    (hexpand : Asks expanding level logFormat (.expandFile path none format config))
    (hcheck : Asks checking level logFormat (.validate path "text"))
    (hsettings : ∃ st, loadSettings d (settingsName x config) = .ok st)
    (hformat : ∀ f, format = some f → (OutputFormat.ofName? f).isSome = true) :
    (¬ (AcceptsLogging level logFormat ∧ PrintsHalf x d path format config) →
      (execute x expanding d).1 = (execute x checking d).1 ∧
        ((execute x expanding d).1 ≠ .ok () →
          (execute x expanding d).2.errors = (execute x checking d).2.errors)) ∧
    (AcceptsLogging level logFormat → PrintsHalf x d path format config →
      (execute x checking d).1 = .ok () ∧
        ∃ half, (execute x expanding d).1 = .error (.failure (.stray half))) := by
  obtain ⟨st, hst⟩ := hsettings
  by_cases hlogging : AcceptsLogging level logFormat
  · -- both tasks are performed in the same session, and the logger does not change the disk
    obtain ⟨l, hset⟩ := exists_outcome_setUpLogging hlogging (.start d)
    rw [execute_eq_outcome, execute_eq_outcome, outcome_program hexpand, outcome_program hcheck,
      outcome_bind_of_ok hset, outcome_bind_of_ok hset]
    have hst' : loadSettings { Session.start d with logger := l }.disk (settingsName x config) =
        .ok st := hst
    have hcheck := judgedBy_performValidate x path { Session.start d with logger := l }
    simp only [perform]
    constructor
    · intro hhalf
      obtain ⟨hend, hsame⟩ := (judgedBy_performExpandFile hst' hformat fun h =>
        hhalf ⟨hlogging, h⟩).agree hcheck
      exact ⟨hend, fun hne => by rw [hsame hne]⟩
    · rintro - ⟨ss, hss, hhalf⟩
      obtain ⟨half, hend⟩ := exists_listingEnd_of_printsHalf hss hhalf
      obtain ⟨d', ss', hload, hss'⟩ := exists_check_standard hss
      have hexpand := fst_outcome_performExpandFile (s := { Session.start d with logger := l }) hss
      exact ⟨hcheck.accepted d' ss' hload hss', half, hexpand.trans hend⟩
  · -- neither command gets as far as its task
    refine ⟨fun _ => ?_, fun h => absurd h hlogging⟩
    obtain ⟨ps, hps⟩ := exists_setUpLogging_eq_stop hlogging
    have hstop : ∀ args t, Asks args level logFormat t →
        execute x args d = (stop 2 ps : Run Unit).outcome (.start d) := by
      intro args t hasks
      rw [execute_eq_outcome, outcome_program hasks, hps]
      exact outcome_bind_of_error (outcome_stop 2 ps _)
    rw [hstop _ _ hexpand, hstop _ _ hcheck]
    exact ⟨rfl, fun _ => rfl⟩

/-- A disk with a settings file and a document of two bad entries. -/
def badEntries : Disk :=
  ⟨["work"], [
    (["work", "settings.yaml"], .file (Text.encodeUtf8 "important: true\nformat: json\n".toList)),
    (["work", "margins.yaml"],
      .file (Text.encodeUtf8 "declarations:\n- values: [auto]\n  origin: nobody\n- 7\n".toList))]⟩

/-- Both commands refuse the bad entries in the same words, whatever the settings file says. -/
theorem validate_predicts_expandFile_badEntries :
    let x : Surroundings :=
      ⟨⟨⟨2000, 1, 1⟩, 0, 0, 0, 0, some 0⟩, some ("settings.yaml" : Text), fun _ => ""⟩
    let expanding : List Text :=
      ["--log-level", "info", "expand-file", "margins.yaml", "--format=yaml"]
    let checking : List Text :=
      ["--log-level=info", "validate", "--format", "text", "--", "margins.yaml"]
    let format : Option Text := some ("yaml" : Text)
    Asks expanding "info" "text" (.expandFile "margins.yaml" none format none) ∧
      Asks checking "info" "text" (.validate "margins.yaml" "text") ∧
      loadSettings badEntries (settingsName x none) = .ok ⟨.author, true, .json⟩ ∧
      (¬ (AcceptsLogging "info" "text" ∧ PrintsHalf x badEntries "margins.yaml" format none) →
        (execute x expanding badEntries).1 = (execute x checking badEntries).1 ∧
          ((execute x expanding badEntries).1 ≠ .ok () →
            (execute x expanding badEntries).2.errors =
              (execute x checking badEntries).2.errors)) ∧
      (AcceptsLogging "info" "text" → PrintsHalf x badEntries "margins.yaml" format none →
        (execute x checking badEntries).1 = .ok () ∧
          ∃ half, (execute x expanding badEntries).1 = .error (.failure (.stray half))) := by
  intro x expanding checking format
  have hexpand : Asks expanding "info" "text" (.expandFile "margins.yaml" none format none) :=
    ⟨⟨"info", "text", .expandFile, (["margins.yaml", "--format=yaml"] : List Text)⟩,
      by decide +kernel, rfl, rfl, by decide +kernel⟩
  have hcheck : Asks checking "info" "text" (.validate "margins.yaml" "text") :=
    ⟨⟨"info", "text", .validate, (["--format", "text", "--", "margins.yaml"] : List Text)⟩,
      by decide +kernel, rfl, rfl, by decide +kernel⟩
  have hsettings : loadSettings badEntries (settingsName x none) = .ok ⟨.author, true, .json⟩ := by
    decide +kernel
  have hformat : ∀ f, some ("yaml" : Text) = some f → (OutputFormat.ofName? f).isSome = true := by
    rintro f ⟨⟩
    decide
  exact ⟨hexpand, hcheck, hsettings,
    validate_predicts_expandFile x badEntries hexpand hcheck ⟨_, hsettings⟩ hformat⟩

/-- A disk with a document whose value is an escaped half of a surrogate pair. -/
def halfValue : Disk :=
  ⟨["work"], [(["work", "in.json"],
    .file (Text.encodeUtf8 "\x7b\"declarations\":[\x7b\"values\":[\"\\ud800\"]\x7d]\x7d".toList))]⟩

/-- The check passes the escaped half, and its expansion is a failure. -/
theorem execute_halfValue :
    let x : Surroundings := ⟨⟨⟨2000, 1, 1⟩, 0, 0, 0, 0, some 0⟩, none, fun _ => ""⟩
    (execute x (["validate", "in.json"] : List Text) halfValue).1 = .ok () ∧
      (execute x (["expand-file", "in.json"] : List Text) halfValue).1 =
        .error (.failure (.stray ⟨0, 12, 12⟩)) := by
  decide +kernel

end CssMargin.Command
