/-
# The trace of an expansion

The expansion of a file logs an event for each shorthand and one for the file, and nothing else is
written on the standard error by a run that ends well.  So what is there is what the logger makes of
these events: which of them it writes depends on the level alone, and as JSON objects each takes one
line, whatever the path looks like.  Numbers of more than 4300 digits cannot be shown, so that the
number of entries must not be one of these.

What the objects say is compared with the entries of the document, not with the shorthands: the
position and the number of values of each entry, in the order of the entries.
-/
import CssMargin.Proofs.Command.FrontEnds
import CssMargin.Proofs.Command.Loading
import CssMargin.Proofs.Disk.Halves
import CssMargin.Proofs.Log.Events
import CssMargin.Proofs.Shorthand.Summaries
namespace CssMargin.Command

open Run

/-! ### What the objects say -/

/-- Whether an object says that the shorthand at position `k`, with `n` values, is expanded. -/
structure TellsOfShorthand (time : Moment) (k n : Nat) (ms : List (Text × Json)) : Prop where
  /-- There are no other members. -/
  keys : ms.map (·.1) =
    (["timestamp", "level", "logger", "message", "arity", "index"] : List Text)
  /-- The time, in universal time. -/
  timestamp : ms.lookup ("timestamp" : Text) =
    some (.text (({ time with offset := some 0 } : Moment).text "T"))
  /-- The level. -/
  level : ms.lookup ("level" : Text) = some (.text "DEBUG")
  /-- The logger. -/
  logger : ms.lookup ("logger" : Text) = some (.text "margin_shorthand.cli")
  /-- The message. -/
  message : ms.lookup ("message" : Text) = some (.text
    ("declarations[" ++ toString k ++ "]: margin with " ++ toString n ++ " values" : String))
  /-- The number of values. -/
  arity : ms.lookup ("arity" : Text) = some (.int n)
  /-- The position. -/
  index : ms.lookup ("index" : Text) = some (.int k)
  /-- The line is read as the object again. -/
  read : Json.read (Log.objectLine ms) = .ok (.object ms)

/-- Whether an object says that so many shorthands of the file at a path were expanded. -/
structure TellsOfFile (time : Moment) (count : Nat) (path : Text) (ms : List (Text × Json)) :
    Prop where
  /-- There are no other members. -/
  keys : ms.map (·.1) = (["timestamp", "level", "logger", "message"] : List Text)
  /-- The time, in universal time. -/
  timestamp : ms.lookup ("timestamp" : Text) =
    some (.text (({ time with offset := some 0 } : Moment).text "T"))
  /-- The level. -/
  level : ms.lookup ("level" : Text) = some (.text "INFO")
  /-- The logger. -/
  logger : ms.lookup ("logger" : Text) = some (.text "margin_shorthand.cli")
  /-- The message, with the path as it was given. -/
  message : ms.lookup ("message" : Text) = some (.text
    (("expanded " ++ toString count ++ " shorthands from " : String) ++ path))
  /-- The line is read as the object again. -/
  read : Json.read (Log.objectLine ms) = .ok (.object ms)

/-- Whether objects account for the entries of a file, one after the other, and then for the
file. -/
structure IsTrace (time : Moment) (path : Text) (entries : List Value)
    (each : List (List (Text × Json))) (last : List (Text × Json)) : Prop where
  /-- There are as many as entries, and one more. -/
  length : each.length = entries.length
  /-- Each says where an entry stands and how many values this has. -/
  each : ∀ k ms, each[k]? = some ms →
    ∃ e n, entries[k]? = some e ∧ valueCount? e = some n ∧ TellsOfShorthand time k n ms
  /-- The last one says how many there were. -/
  last : TellsOfFile time entries.length path last

lemma showable_expanding {k n : Nat} (hk : Text.isLongInteger k = false) (h : n ≤ 4) :
    (Log.Event.expanding k n).Showable := by
  have hall : ∀ n ≤ 4, Text.isLongInteger (n : Nat) = false := by decide
  exact List.forall_mem_cons.2 ⟨hk, List.forall_mem_singleton.2 (hall n h)⟩

lemma tellsOfShorthand_members (time : Moment) {k n : Nat} (hk : Text.isLongInteger k = false)
    (h : n ≤ 4) : TellsOfShorthand time k n ((Log.Event.expanding k n).members time) := by
  have hread := Log.Event.read_objectLine time (showable_expanding hk h) (Json.unpaired_coe _)
  rw [Log.Event.members_eq] at hread ⊢
  refine ⟨rfl, rfl, rfl, rfl, ?_, rfl, rfl, hread⟩
  simp only [String.append_assoc]
  rfl

lemma tellsOfFile_members (time : Moment) {count : Nat} {path : Text}
    (hcount : Text.isLongInteger count = false) (hpath : Json.Unpaired path.points) :
    TellsOfFile time count path ((Log.Event.fileExpanded count path).members time) := by
  have htext : (Log.Event.fileExpanded count path).text =
      (("expanded " ++ toString count ++ " shorthands from " : String) : Text) ++ path := by
    rw [← Text.coe_append_coe, ← Text.coe_append_coe, Text.append_assoc, Text.append_assoc]
    rfl
  have hshow : (Log.Event.fileExpanded count path).Showable := List.forall_mem_singleton.2 hcount
  have hread := Log.Event.read_objectLine time hshow (by
    rw [htext, Text.points_append, Text.points_coe]
    exact Json.unpaired_chars_append _ hpath)
  rw [Log.Event.members_eq] at hread ⊢
  refine ⟨rfl, rfl, rfl, rfl, ?_, hread⟩
  rw [← htext]
  rfl

/-! ### What is logged -/

section Levels

variable (path : Text) (ss : List Shorthand) (time : Moment)

lemma level_of_mem_trace {e : Log.Event} (he : e ∈ trace path ss) :
    (e.record time).level = Log.debugLevel ∨ (e.record time).level = Log.infoLevel := by
  rw [trace, List.mem_append, List.mem_map, List.mem_singleton] at he
  rcases he with ⟨s, -, rfl⟩ | rfl
  · exact .inl rfl
  · exact .inr rfl

/-- From the lowest level on everything is written. -/
lemma filter_trace_debugLevel :
    (trace path ss).filter (fun e => Log.debugLevel ≤ (e.record time).level) = trace path ss := by
  refine List.filter_eq_self.2 fun e he => ?_
  rcases level_of_mem_trace path ss time he with h | h <;> rw [h] <;> rfl

/-- From the next level on only what is said of the file is written. -/
lemma filter_trace_infoLevel :
    (trace path ss).filter (fun e => Log.infoLevel ≤ (e.record time).level) =
      [.fileExpanded ss.length path] := by
  have hnone : (ss.map fun s => Log.Event.expanding s.index s.values.length).filter
      (fun e => Log.infoLevel ≤ (e.record time).level) = [] := by
    refine List.filter_eq_nil_iff.2 fun e he => ?_
    obtain ⟨s, -, rfl⟩ := List.mem_map.1 he
    exact Bool.false_ne_true
  rw [trace, List.filter_append, hnone]
  rfl

end Levels

section Written

variable {x : Surroundings} {path : Text} {out format config : Option Text} {s : Session}
  {f : OutputFormat} {ss : List Shorthand}

/-- Neither a listing nor its file has to do with the standard error. -/
lemma keeps_errors_deliver (out : Option Text) (f : OutputFormat) (ds : List Declaration) :
    Keeps Session.errors (deliver out f ds) := by
  cases out with
  | none =>
    intro s
    rw [deliver, outcome_printListing]
  | some out =>
    refine keeps_bind (fun s => ?_) fun _ => keeps_print (fun _ _ => rfl) _
    have hwrites := writes_writeListing out ds s
    generalize (writeListing out ds).outcome s = o at hwrites
    cases hwrites <;> rfl

/-- An expansion that nothing stops leaves its trace on the standard error, and nothing else. -/
lemma errors_performExpandFile (h : Accepts x s.disk path format config f ss)
    (out : Option Text) :
    ((performExpandFile x path out format config).outcome s).2.errors =
      s.errors ++ written s.logger x.time (trace path ss) := by
  rw [outcome_performExpandFile h, keeps_errors_deliver]

end Written

/-! ### The whole run -/

section Run

variable {x : Surroundings} {d : Disk} {args : List Text} {level logFormat path : Text}
  {out format config : Option Text}

/-- The logger that is set up for the level with a name. -/
lemma outcome_setUpLogging_of_namesLevel (haccepts : AcceptsLogging level logFormat) {n : Int}
    (hn : Log.NamesLevel level n) (s : Session) : (setUpLogging level logFormat).outcome s =
      (.ok (), { s with logger := ⟨n, false, [.ofName logFormat]⟩ }) := by
  have hset : Log.Logger.setUp level logFormat = .ok ⟨n, false, [.ofName logFormat]⟩ := by
    rw [Log.Logger.setUp, Log.levelOf_eq_ok_iff.2 hn]
    rfl
  rw [setUpLogging, if_pos (Bool.and_eq_true_iff.2 haccepts), hset]
  rfl

/-- An expansion of a file that ends well was stopped by nothing. -/
lemma accepts_of_conclusion (hasks : Asks args level logFormat (.expandFile path out format config))
    (hcode : (conclusion (execute x args d).1).1 = 0) :
    AcceptsLogging level logFormat ∧ ∃ f ss, Accepts x d path format config f ss := by
  have hlogging : AcceptsLogging level logFormat := by
    by_contra hnot
    obtain ⟨ps, hps⟩ := exists_setUpLogging_eq_stop hnot
    rw [execute_eq_outcome, outcome_program hasks, hps,
      outcome_bind_of_error (outcome_stop 2 ps _)] at hcode
    have htwo : (conclusion (.error (.exit 2))).1 ≠ 0 := by decide
    exact htwo hcode
  refine ⟨hlogging, ?_⟩
  by_contra hnone
  push Not at hnone
  obtain ⟨l, hl⟩ := exists_execute_eq_perform hasks hlogging x d
  obtain ⟨e, s', hs', hne, -⟩ :=
    stops_performExpandFile (s := { Session.start d with logger := l }) hnone out
  rw [hl, perform, hs'] at hcode
  exact hne hcode

/-- What a run that ends well leaves on the standard error. -/
lemma errors_execute (hasks : Asks args level logFormat (.expandFile path out format config))
    (hlogging : AcceptsLogging level logFormat) {f : OutputFormat} {ss : List Shorthand}
    (haccepts : Accepts x d path format config f ss) {n : Int} (hn : Log.NamesLevel level n) :
    (execute x args d).2.errors =
      written ⟨n, false, [.ofName logFormat]⟩ x.time (trace path ss) := by
  have herrors := errors_performExpandFile
    (s := { Session.start d with logger := ⟨n, false, [.ofName logFormat]⟩ }) haccepts out
  rw [execute_eq_outcome, outcome_program hasks,
    outcome_bind_of_ok (outcome_setUpLogging_of_namesLevel hlogging hn _), perform, herrors]
  exact String.empty_append

end Run

section Trace

variable {d : Document} {defaults : EntryDefaults} {ss : List Shorthand} {entries : List Value}

/-- A shorthand of an accepted document stands where its entry does. -/
lemma exists_entry_of_check (h : d.check defaults = .ok ss) (hd : d.declarations = .list entries)
    {k : Nat} {s : Shorthand} (hk : ss[k]? = some s) :
    ∃ e, entries[k]? = some e ∧ valueCount? e = some s.values.length ∧ s.index = k ∧
      k ≤ entries.length ∧ s.values.length ≤ 4 := by
  obtain ⟨entries', fields, arity, hd', hentry, hrepeats, harity⟩ := exists_arity_of_check h hk
  rw [hd] at hd'
  cases hd'
  exact ⟨_, hentry, hrepeats.valueCount?_eq, hrepeats.index,
    Nat.le_of_lt (List.getElem?_eq_some_iff.1 hentry).1,
    (Arity.isSome_ofNat?_iff.1 (Option.isSome_iff_exists.2 ⟨arity, harity⟩)).2⟩

/-- What is logged of an accepted document can be shown if the number of its entries can. -/
lemma showable_of_mem_trace (h : d.check defaults = .ok ss) (hd : d.declarations = .list entries)
    (hcount : Text.isLongInteger entries.length = false) {path : Text} {e : Log.Event}
    (he : e ∈ trace path ss) : e.Showable := by
  rw [trace, List.mem_append, List.mem_map, List.mem_singleton] at he
  rcases he with ⟨s, hs, rfl⟩ | rfl
  · obtain ⟨k, hk⟩ := List.getElem?_of_mem hs
    obtain ⟨-, -, -, rfl, hposition, hfour⟩ := exists_entry_of_check h hd hk
    exact showable_expanding (Text.isLongInteger_of_le hposition hcount) hfour
  · rw [← (length_and_arity_of_check h hd).1] at hcount
    exact List.forall_mem_singleton.2 hcount

/-- The objects of the events of an accepted document account for its entries. -/
lemma isTrace_members (h : d.check defaults = .ok ss) (hd : d.declarations = .list entries)
    (time : Moment) {path : Text} (hcount : Text.isLongInteger entries.length = false)
    (hpath : Json.Unpaired path.points) : IsTrace time path entries
      (ss.map fun s => (Log.Event.expanding s.index s.values.length).members time)
      ((Log.Event.fileExpanded entries.length path).members time) := by
  refine ⟨?_, fun k ms hms => ?_, tellsOfFile_members time hcount hpath⟩
  · rw [List.length_map, (length_and_arity_of_check h hd).1]
  · rw [List.getElem?_map, Option.map_eq_some_iff] at hms
    obtain ⟨s, hk, rfl⟩ := hms
    obtain ⟨e, hentry, hvalues, hindex, hposition, hfour⟩ := exists_entry_of_check h hd hk
    rw [hindex]
    exact ⟨e, _, hentry, hvalues,
      tellsOfShorthand_members time (Text.isLongInteger_of_le hposition hcount) hfour⟩

end Trace

/-- **The trace.**  Let the expansion of a file end with the exit code 0.  Then the document of the
file was accepted, with as many shorthands as entries, none of which is refused; and these are
accounted for on the standard error.

* At the level `DEBUG`, as JSON objects, cutting it at the line feeds gives one object for each
  entry in their order, with its position and its number of values, and one for the file; behind the
  last line feed there is nothing.
* At the level `INFO` there is only the object for the file.
* At the levels `WARNING` and `ERROR` nothing is written, in any format.

The number of entries is shown by its digits, of which there can be 4300. -/
theorem trace_accounts_for_every_shorthand {x : Surroundings} {d : Disk} {args : List Text}
    {level logFormat path : Text} {out format config : Option Text}
    (hasks : Asks args level logFormat (.expandFile path out format config))
    (hcode : (conclusion (execute x args d).1).1 = 0) :
    ∃ st document entries ss, loadSettings d (settingsName x config) = .ok st ∧
      loadDocument d (Path.ofText path) = .ok document ∧ document.declarations = .list entries ∧
      document.check ⟨.text st.origin.name, .bool st.important⟩ = .ok ss ∧
      ss.length = entries.length ∧
      (ss.mapM fun s => Expander.logging.expand s.values s.important s.origin.name).run [] =
        (ss.map Shorthand.expand, []) ∧
      (logFormat = "json" → Log.capitals level = "DEBUG" →
        Text.isLongInteger entries.length = false →
        ∃ each last, Text.cutAt '\n' (execute x args d).2.errors.toList =
            (each ++ [last]).map Log.objectLine ++ [[]] ∧
          IsTrace x.time path entries each last) ∧
      (logFormat = "json" → Log.capitals level = "INFO" →
        Text.isLongInteger entries.length = false →
        ∃ last, Text.cutAt '\n' (execute x args d).2.errors.toList = [Log.objectLine last, []] ∧
          TellsOfFile x.time entries.length path last) ∧
      (Log.capitals level = "WARNING" ∨ Log.capitals level = "ERROR" →
        (execute x args d).2.errors = "") := by
  obtain ⟨hlogging, f, ss, haccepts⟩ := accepts_of_conclusion hasks hcode
  obtain ⟨st, document, hst, -, hload, hcheck⟩ := id haccepts
  obtain ⟨entries, hd⟩ := exists_list_of_check_eq_ok hcheck
  obtain ⟨hlength, harity⟩ := length_and_arity_of_check hcheck hd
  -- any of the four levels, under its number
  have herrors (n : Int) (name : String) (hlevel : Log.capitals level = name)
      (hn : (n, name) ∈ Log.levelNames ++ Log.secondNames) : (execute x args d).2.errors =
        written ⟨n, false, [.ofName logFormat]⟩ x.time (trace path ss) := by
    exact errors_execute hasks hlogging haccepts ⟨name, hlevel, hn⟩
  have hpath : Json.Unpaired path.points := by
    obtain ⟨s, -, -, hs, -⟩ := isContent_of_loadDocument hload
    exact Disk.unpaired_of_readText hs
  have hlow (n : Int) (hn : Log.infoLevel < n) (e : Log.Event) (he : e ∈ trace path ss) :
      (e.record x.time).level < n := by
    have hdebug : Log.debugLevel < Log.infoLevel := by decide
    rcases level_of_mem_trace path ss x.time he with h | h <;> omega
  refine ⟨st, document, entries, ss, hst, hload, hd, hcheck, hlength, run_mapM_logging harity [],
    ?_, ?_, ?_⟩
  · rintro rfl hlevel hcount
    refine ⟨_, _, ?_, isTrace_members hcheck hd x.time hcount hpath⟩
    rw [herrors Log.debugLevel "DEBUG" hlevel (by decide), ← hlength]
    refine (Log.cutAt_join_write (by decide) x.time fun e he =>
      showable_of_mem_trace hcheck hd hcount he).trans ?_
    rw [filter_trace_debugLevel, trace, List.map_append, List.map_append, List.map_map,
      List.map_map]
    rfl
  · rintro rfl hlevel hcount
    refine ⟨_, ?_, tellsOfFile_members x.time hcount hpath⟩
    rw [herrors Log.infoLevel "INFO" hlevel (by decide), ← hlength]
    refine (Log.cutAt_join_write (by decide) x.time fun e he =>
      showable_of_mem_trace hcheck hd hcount he).trans ?_
    rw [filter_trace_infoLevel]
    rfl
  · rintro (hlevel | hlevel)
    · rw [herrors Log.warningLevel "WARNING" hlevel (by decide)]
      exact Log.join_write_eq_empty (by decide) x.time _ (hlow _ (by decide))
    · rw [herrors 40 "ERROR" hlevel (by decide)]
      exact Log.join_write_eq_empty (by decide) x.time _ (hlow _ (by decide))

/-- A disk with a document of two shorthands, the first with two values and the second with three,
whose name has a line feed and quotes in it. -/
def twoMargins : Disk :=
  ⟨["work"], [(["work", "two\n\"margins\".yaml"], .file (Text.encodeUtf8
    "declarations:\n- values: [1px, auto]\n- values: [1px, 2px, 3px]\n".toList))]⟩

/-- The number of entries of a document that was loaded, if it has a list of them. -/
def entryCount? : Except LoadStop Document → Option Nat
  | .ok ⟨.list entries, _⟩ => some entries.length
  | _ => none

/-- The path of `twoMargins` does not break the last line. -/
theorem trace_accounts_for_every_shorthand_twoMargins :
    let x : Surroundings := ⟨⟨⟨2000, 1, 1⟩, 0, 0, 0, 0, some 0⟩, none, fun _ => ""⟩
    let path : Text := "two\n\"margins\".yaml"
    let args : List Text :=
      ["--log-level", "debug", "--log-format", "json", "expand-file", path]
    Asks args "debug" "json" (.expandFile path none none none) ∧
      (conclusion (execute x args twoMargins).1).1 = 0 ∧
      Log.capitals "debug" = ("DEBUG" : Text) ∧
      ∃ document entries, loadDocument twoMargins (Path.ofText path) = .ok document ∧
        document.declarations = .list entries ∧ entries.length = 2 ∧
        ∃ each last, Text.cutAt '\n' (execute x args twoMargins).2.errors.toList =
            (each ++ [last]).map Log.objectLine ++ [[]] ∧
          IsTrace x.time path entries each last := by
  intro x path args
  have hasks : Asks args "debug" "json" (.expandFile path none none none) :=
    ⟨⟨"debug", "json", .expandFile, ([path] : List Text)⟩, by decide +kernel, rfl, rfl,
      by decide +kernel⟩
  have hcode : (conclusion (execute x args twoMargins).1).1 = 0 := by decide +kernel
  have hlevel : Log.capitals "debug" = ("DEBUG" : Text) := by decide +kernel
  obtain ⟨-, document, entries, -, -, hload, hd, -, -, -, hdebug, -, -⟩ :=
    trace_accounts_for_every_shorthand hasks hcode
  have htwo : entries.length = 2 := by
    have hcount : entryCount? (loadDocument twoMargins (Path.ofText path)) = some 2 := by
      decide +kernel
    obtain ⟨declarations, file⟩ := document
    obtain rfl : declarations = .list entries := hd
    rw [hload] at hcount
    exact Option.some.inj hcount
  have hshort : Text.isLongInteger entries.length = false := by
    rw [htwo]
    decide
  exact ⟨hasks, hcode, hlevel, document, entries, hload, hd, htwo, hdebug rfl hlevel hshort⟩

end CssMargin.Command
