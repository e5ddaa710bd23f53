/-
# One shorthand, from the command line or from a file

`expand` takes the values of a shorthand from the command line, its importance and its origin from
options or from the settings; `expand-file` takes shorthands from the entries of a document.  The
number of values and the origin are looked at in two places then, by the command in the one case
and by the check of the document in the other.  Both places let the same shorthands through, and
both commands list the same declarations for them: each of the two is compared with `Expandable`,
not with the other.  Neither place looks at the characters of a value, so that both commands fail in
the same way when a value with half a surrogate pair is to be printed in a line.
-/
import CssMargin.Proofs.Command.LogOptions
import CssMargin.Proofs.Listing.Yaml
import CssMargin.Proofs.Shorthand.OneEntry
namespace CssMargin.Command

open Run

/-! ### What is printed of a listing -/

/-- What is printed of a listing, in each format. -/
def listingOutput (name : Name) : OutputFormat → List Declaration → String
  | .json, ds => listingJson name ds
  | .yaml, ds => String.ofList (listingYaml ds)
  | .text, ds => printedLines ds

lemma outcome_printListing (name : Name) (f : OutputFormat) (ds : List Declaration)
    (s : Session) : (printListing name f ds).outcome s =
      (listingEnd f ds, { s with output := s.output ++ listingOutput name f ds }) := by
  cases f with
  | json =>
    have hwhole : (Text.plain (listingJson name ds)).whole = .ok (listingJson name ds) := by
      rw [plain_listingJson, Text.whole_coe]
    exact outcome_print_of_ok hwhole s
  | yaml =>
    have hwhole : (Text.plain (String.ofList (listingYaml ds))).whole =
        .ok (String.ofList (listingYaml ds)) := by
      rw [plain_listingYaml, Text.whole_coe]
    exact outcome_print_of_ok hwhole s
  | text => exact outcome_printLines ds s

/-- Only a listing as an object says which command it comes from. -/
lemma listingOutput_eq_of_ne_json {f : OutputFormat} (h : f ≠ .json) (name name' : Name)
    (ds : List Declaration) : listingOutput name f ds = listingOutput name' f ds := by
  cases f with
  | json => exact absurd rfl h
  | yaml => rfl
  | text => rfl

/-! ### The command line -/

/-- Whether settings are in force with which a command comes to an output format. -/
structure Chooses (x : Surroundings) (d : Disk) (format config : Option Text) (st : Settings)
    (f : OutputFormat) : Prop where
  /-- The settings. -/
  settings : loadSettings d (settingsName x config) = .ok st
  /-- The format of the command line, or else of the settings. -/
  format : OutputFormat.ofName? (format.getD st.format.name) = some f

lemma expandProblems_eq_nil_iff {format : Text} {f : OutputFormat}
    (hf : OutputFormat.ofName? format = some f) {values : List Text} {origin : Text} :
    expandProblems format origin values.length = [] ↔ Expandable values origin := by
  have horigin : (Origin.ofName? origin).isSome = true ↔ ∃ o : Origin, origin = o.name := by
    simp only [Option.isSome_iff_exists, Origin.ofName?_eq_some_iff]
  rw [Expandable, ← horigin, ← Arity.isSome_ofNat?_iff, expandProblems, hf]
  simp [Option.isSome_iff_ne_none, and_comm]

section Runs

variable {x : Surroundings} {d : Disk} {args : List Text} {level logFormat : Text}
  {format config : Option Text} {st : Settings} {f : OutputFormat}

section Expand

variable {values : List Text} {important : Option Bool} {origin : Option Text}
  (hasks : Asks args level logFormat (.expand values important origin format config))
  (hlogging : AcceptsLogging level logFormat) (hchooses : Chooses x d format config st f)
include hasks hlogging hchooses

/-- What the command line does not say is taken from the settings. -/
lemma exists_execute_eq_expandAs :
    ∃ l, execute x args d = (expandAs x values (important.getD st.important)
      (origin.getD st.origin.name) (format.getD st.format.name)).outcome
        { Session.start d with logger := l } := by
  obtain ⟨l, hl⟩ := exists_execute_eq_perform hasks hlogging x d
  refine ⟨l, ?_⟩
  rw [hl, perform, performExpand_eq_bind]
  exact outcome_bind_of_ok (outcome_settingsInForce hchooses.settings)

/-- A shorthand that there can be is expanded, and its declarations are printed. -/
lemma execute_expand_of_expandable (he : Expandable values (origin.getD st.origin.name)) :
    (execute x args d).1 = listingEnd f
        (expandMargin values (important.getD st.important) (origin.getD st.origin.name)) ∧
      (execute x args d).2.output = listingOutput .expand f
        (expandMargin values (important.getD st.important) (origin.getD st.origin.name)) := by
  obtain ⟨l, hl⟩ := exists_execute_eq_expandAs hasks hlogging hchooses
  rw [hl, expandAs, (expandProblems_eq_nil_iff hchooses.format).2 he, hchooses.format]
  dsimp only
  rw [outcome_bind_of_ok (outcome_log x _ _), outcome_printListing]
  exact ⟨rfl, String.empty_append⟩

/-- Any other shorthand is reported. -/
lemma execute_expand_of_not_expandable (he : ¬ Expandable values (origin.getD st.origin.name)) :
    (execute x args d).1 = .error (.exit 2) ∧ (execute x args d).2.output = "" := by
  obtain ⟨l, hl⟩ := exists_execute_eq_expandAs hasks hlogging hchooses
  rw [hl, expandAs]
  split
  · rename_i hnil _
    exact absurd ((expandProblems_eq_nil_iff hchooses.format).1 hnil) he
  · rw [outcome_stop]
    exact ⟨rfl, rfl⟩

end Expand

section ExpandFile

variable {path : Text} {doc : Document}

/-- The expansion of a document that is not accepted stops. -/
lemma outcome_performExpandFile_of_refused {s : Session} {ps : List Problem}
    (hchooses : Chooses x s.disk format config st f)
    (hdoc : loadDocument s.disk (Path.ofText path) = .ok doc)
    (hcheck : doc.check ⟨.text st.origin.name, .bool st.important⟩ = .error ps)
    (out : Option Text) :
    (performExpandFile x path out format config).outcome s = (stop 2 ps : Run Unit).outcome s := by
  have hload := outcome_load path s
  rw [hdoc] at hload
  rw [performExpandFile, outcome_bind_of_ok (outcome_settingsInForce hchooses.settings)]
  dsimp only
  rw [hchooses.format]
  dsimp only
  rw [outcome_bind_of_ok hload]
  dsimp only
  rw [hcheck]

variable (hasks : Asks args level logFormat (.expandFile path none format config))
  (hlogging : AcceptsLogging level logFormat) (hchooses : Chooses x d format config st f)
  (hdoc : loadDocument d (Path.ofText path) = .ok doc)
include hasks hlogging hchooses hdoc

/-- The entries of an accepted document are expanded, and the declarations are printed. -/
lemma execute_expandFile_of_accepted {ss : List Shorthand}
    (hcheck : doc.check ⟨.text st.origin.name, .bool st.important⟩ = .ok ss) :
    (execute x args d).1 = listingEnd f (ss.flatMap Shorthand.expand) ∧
      (execute x args d).2.output =
        listingOutput .expandFile f (ss.flatMap Shorthand.expand) := by
  obtain ⟨l, hl⟩ := exists_execute_eq_perform hasks hlogging x d
  have haccepts : Accepts x { Session.start d with logger := l }.disk path format config f ss :=
    ⟨st, doc, hchooses.settings, hchooses.format, hdoc, hcheck⟩
  rw [hl, perform, outcome_performExpandFile haccepts, deliver, outcome_printListing]
  exact ⟨rfl, String.empty_append⟩

/-- The problems of a document that is not accepted are reported. -/
lemma execute_expandFile_of_refused {ps : List Problem}
    (hcheck : doc.check ⟨.text st.origin.name, .bool st.important⟩ = .error ps) :
    (execute x args d).1 = .error (.exit 2) ∧ (execute x args d).2.output = "" := by
  obtain ⟨l, hl⟩ := exists_execute_eq_perform hasks hlogging x d
  rw [hl, perform, outcome_performExpandFile_of_refused
    (s := { Session.start d with logger := l }) hchooses hdoc hcheck, outcome_stop]
  exact ⟨rfl, rfl⟩

end ExpandFile

end Runs

/-! ### Values that cannot be printed -/

/-- The declarations of a shorthand can be printed unless they are to be printed in lines and a
value has half a surrogate pair. -/
lemma listingEnd_expandMargin_eq_ok_iff {f : OutputFormat} {values : List Text} {origin : Text}
    (he : Expandable values origin) (important : Bool) :
    listingEnd f (expandMargin values important origin) = .ok () ↔
      (f = .text → ∀ v ∈ values, v.isWhole = true) := by
  obtain ⟨hcount, o, rfl⟩ := he
  obtain ⟨arity, harity⟩ := Option.isSome_iff_exists.1 (Arity.isSome_ofNat?_iff.2 hcount)
  rw [listingEnd_eq_ok_iff]
  exact imp_congr_right fun _ =>
    forall_isWhole_expand (s := ⟨marginProperty, values, important, o, 0⟩) harity

lemma exitCode?_listingEnd {f : OutputFormat} {ds : List Declaration} :
    exitCode? (listingEnd f ds) = some 0 ↔ listingEnd f ds = .ok () := by
  rcases listingEnd_ok_or_stray f ds with h | ⟨half, h⟩
  · rw [h]
    exact ⟨fun _ => rfl, fun _ => rfl⟩
  · rw [h]
    exact ⟨fun hcode => (by cases hcode), fun hok => (by cases hok)⟩

/-! ### The two commands -/

/-- **One shorthand, two ways.**  Let a command line ask for the expansion of a shorthand, and let
its settings and its output format be valid.  Its run ends with the exit code 0 exactly when the
document with one entry that says the same values, importance and origin is accepted, whatever the
defaults are, and, if the declarations are to be printed in lines, no value has half a surrogate
pair.  If the document is not accepted, the run ends with the exit code 2; if it is, and the exit
code is not 0, the run fails over such a half.  If the document is accepted, the declarations of its
shorthands are those of the expansion, and what the run prints is their listing.

Wherever this document is in a file, a command line that asks for the expansion of the file in the
same format ends in the same way.  The two runs print the same, except that a listing as an object
says in its member `command` which of the two commands was performed. -/
theorem expand_agrees_with_expandFile (x : Surroundings) (d : Disk) {args : List Text}
    {level logFormat : Text} {values : List Text} {important : Option Bool}
    {origin format config : Option Text} {st : Settings} {f : OutputFormat}
    {fields : List (Value × Value)} {doc : Document}
    (hasks : Asks args level logFormat (.expand values important origin format config))
    (hlogging : AcceptsLogging level logFormat) (hchooses : Chooses x d format config st f)
    (hfields : Spells values (important.getD st.important) (origin.getD st.origin.name) fields)
    (hdoc : doc.declarations = .list [.map fields]) (defaults : EntryDefaults) :
    (exitCode? (execute x args d).1 = some 0 ↔
      (∃ ss, doc.check defaults = .ok ss) ∧ (f = .text → ∀ v ∈ values, v.isWhole = true)) ∧
    ((¬ ∃ ss, doc.check defaults = .ok ss) → exitCode? (execute x args d).1 = some 2) ∧
    ((∃ ss, doc.check defaults = .ok ss) → exitCode? (execute x args d).1 ≠ some 0 →
      ∃ half, (execute x args d).1 = .error (.failure (.stray half))) ∧
    (∀ ss, doc.check defaults = .ok ss →
      expandMargin values (important.getD st.important) (origin.getD st.origin.name) =
        ss.flatMap Shorthand.expand ∧
      (execute x args d).2.output = listingOutput .expand f (ss.flatMap Shorthand.expand)) ∧
    ∀ (x' : Surroundings) (d' : Disk) (args' : List Text) (level' logFormat' path : Text)
      (format' config' : Option Text) (st' : Settings),
      Asks args' level' logFormat' (.expandFile path none format' config') →
      AcceptsLogging level' logFormat' → Chooses x' d' format' config' st' f →
      loadDocument d' (Path.ofText path) = .ok doc →
      (execute x' args' d').1 = (execute x args d).1 ∧
      (f ≠ .json → (execute x' args' d').2.output = (execute x args d).2.output) ∧
      (f = .json → exitCode? (execute x args d).1 = some 0 → ∃ before after,
        (execute x args d).2.output = Json.write .result
          (.object (before ++ (("command" : Text), Json.text "expand") :: after)) ++ "\n" ∧
        (execute x' args' d').2.output = Json.write .result
          (.object (before ++ (("command" : Text), Json.text "expand-file") :: after)) ++
            "\n") := by
  -- neither run is looked at for what the other does: both follow the same condition
  by_cases he : Expandable values (origin.getD st.origin.name)
  · have haccepted (defaults : EntryDefaults) : ∃ ss, doc.check defaults = .ok ss :=
      (hfields.exists_check_iff hdoc).2 he
    obtain ⟨hend, houtput⟩ := execute_expand_of_expandable hasks hlogging hchooses he
    rw [hend, houtput, exitCode?_listingEnd, listingEnd_expandMargin_eq_ok_iff he]
    refine ⟨⟨fun h => ⟨haccepted _, h⟩, And.right⟩, fun hnone => absurd (haccepted _) hnone,
      fun _ hhalf => ?_, fun ss hss => ?_, ?_⟩
    · exact (listingEnd_ok_or_stray _ _).resolve_left fun h => hhalf (exitCode?_listingEnd.2 h)
    · rw [hfields.flatMap_expand hdoc hss]
      exact ⟨rfl, rfl⟩
    intro x' d' args' level' logFormat' path format' config' st' hasks' hlogging' hchooses' hload
    obtain ⟨ss, hss⟩ := haccepted ⟨.text st'.origin.name, .bool st'.important⟩
    obtain ⟨hend', houtput'⟩ :=
      execute_expandFile_of_accepted hasks' hlogging' hchooses' hload hss
    rw [hend', houtput', hfields.flatMap_expand hdoc hss]
    refine ⟨rfl, fun hf => listingOutput_eq_of_ne_json hf _ _ _, ?_⟩
    rintro rfl -
    -- the members are listed as they are given; that they are printed in order is up to the layout
    exact ⟨[("tool", .text "shorthand")], [("ok", .bool true), ("declarations", _)], rfl, rfl⟩
  · have hrefused (defaults : EntryDefaults) : ¬ ∃ ss, doc.check defaults = .ok ss :=
      fun hss => he ((hfields.exists_check_iff hdoc).1 hss)
    obtain ⟨hend, houtput⟩ := execute_expand_of_not_expandable hasks hlogging hchooses he
    have hne : exitCode? (.error (.exit 2)) ≠ some 0 := by decide
    rw [hend, houtput]
    refine ⟨⟨fun hzero => absurd hzero hne, fun hss => absurd hss.1 (hrefused _)⟩, fun _ => rfl,
      fun hss => absurd hss (hrefused _), fun ss hss => absurd ⟨ss, hss⟩ (hrefused _), ?_⟩
    intro x' d' args' level' logFormat' path format' config' st' hasks' hlogging' hchooses' hload
    cases hcheck : doc.check ⟨.text st'.origin.name, .bool st'.important⟩ with
    | ok ss => exact absurd ⟨ss, hcheck⟩ (hrefused _)
    | error ps =>
      obtain ⟨hend', houtput'⟩ :=
        execute_expandFile_of_refused hasks' hlogging' hchooses' hload hcheck
      rw [hend', houtput']
      exact ⟨rfl, fun _ => rfl, fun _ hzero => absurd hzero hne⟩

/-- A shorthand on the command line and in a file, both listed as objects. -/
theorem expand_agrees_with_expandFile_json :
    let x : Surroundings := ⟨⟨⟨2000, 1, 1⟩, 0, 0, 0, 0, some 0⟩, none, fun _ => ""⟩
    let args : List Text :=
      ["expand", "1px", "--important", "--origin=user", "--format", "json", "AUTO"]
    let args' : List Text :=
      ["--log-level", "info", "expand-file", "margins.json", "--format=json"]
    let values : List Text := ["1px", "AUTO"]
    let origin : Text := "user"
    let json : Text := "json"
    let file : Text := "margins.json"
    let fields := entryFields values true origin
    let doc : Document := ⟨.list [.map fields], some file⟩
    let d := (Disk.mk ["work"] []).put ["work", "margins.json"] (.file (Text.encodeUtf8
      (Json.writeAt .result 0 (entryItem values true origin))))
    Asks args "WARNING" "text" (.expand values (some true) (some origin) (some json) none) ∧
      Asks args' "info" "text" (.expandFile file none (some json) none) ∧
      AcceptsLogging "WARNING" "text" ∧ AcceptsLogging "info" "text" ∧
      Chooses x d (some json) none Settings.standard .json ∧
      Spells values true origin fields ∧
      loadDocument d (Path.ofText file) = .ok doc ∧
      exitCode? (execute x args d).1 = some 0 ∧
      (∃ ss, doc.check .standard = .ok ss ∧
        expandMargin values true origin = ss.flatMap Shorthand.expand ∧
        (execute x args d).2.output =
          listingOutput .expand .json (ss.flatMap Shorthand.expand)) ∧
      (execute x args' d).1 = (execute x args d).1 ∧
      ∃ before after,
        (execute x args d).2.output = Json.write .result
          (.object (before ++ (("command" : Text), Json.text "expand") :: after)) ++ "\n" ∧
        (execute x args' d).2.output = Json.write .result
          (.object (before ++ (("command" : Text), Json.text "expand-file") :: after)) ++ "\n" := by
  intro x args args' values origin json file fields doc d
  have hasks : Asks args "WARNING" "text"
      (.expand values (some true) (some origin) (some json) none) :=
    ⟨⟨"WARNING", "text", .expand, args.tail⟩, by decide +kernel, rfl, rfl, by decide +kernel⟩
  have hasks' : Asks args' "info" "text" (.expandFile file none (some json) none) :=
    ⟨⟨"info", "text", .expandFile, (["margins.json", "--format=json"] : List Text)⟩,
      by decide +kernel, rfl, rfl, by decide +kernel⟩
  have hlogging : AcceptsLogging "WARNING" "text" := by decide +kernel
  have hlogging' : AcceptsLogging "info" "text" := by decide +kernel
  have hchooses : Chooses x d (some json) none Settings.standard .json :=
    ⟨by decide +kernel, by decide⟩
  have hfields : Spells values true origin fields := spells_entryFields _ _ _
  have hplace : (Disk.mk ["work"] []).locate (Path.ofText file) =
      .ok ["work", "margins.json"] := by decide +kernel
  have hwrite : (Disk.mk ["work"] []).writeText (Path.ofText file)
      (Json.writeAt .result 0 (entryItem values true origin)) = .ok d := by
    rw [Disk.writeText, Disk.writeFile, hplace]
    rfl
  have hvalues : ∀ v ∈ values, Json.Unpaired v.points := by
    intro v hv
    rcases List.mem_pair.1 hv with rfl | rfl <;> exact Json.unpaired_coe _
  have hpath : (Path.ofText file).text = file := by decide +kernel
  have hload : loadDocument d (Path.ofText file) = .ok doc := by
    rw [loadDocument_entryItem _ _ _ hvalues (Json.unpaired_coe _) (by decide +kernel) hwrite,
      hpath]
  have hdoc : doc.declarations = .list [.map fields] := rfl
  obtain ⟨hiff, -, -, hlisted, hfile⟩ := expand_agrees_with_expandFile x d hasks hlogging hchooses
    hfields hdoc .standard
  obtain ⟨ss, hss⟩ : ∃ ss, doc.check .standard = .ok ss :=
    (hfields.exists_check_iff hdoc).2 ⟨by decide, .user, rfl⟩
  have hcode : exitCode? (execute x args d).1 = some 0 :=
    hiff.2 ⟨⟨ss, hss⟩, fun htext => by cases htext⟩
  obtain ⟨hend, -, hjson⟩ := hfile x d args' _ _ _ _ _ _ hasks' hlogging' hchooses hload
  exact ⟨hasks, hasks', hlogging, hlogging', hchooses, hfields, hload, hcode,
    ⟨ss, hss, hlisted ss hss⟩, hend, hjson rfl hcode⟩

/-- The half of a surrogate pair that stands for the byte FF of an argument. -/
def lastByte : Text := ⟨"", [(⟨0x4FF, by decide⟩, "")]⟩

/-- A value of it is accepted in an entry, and its expansion is a failure. -/
theorem execute_lastByte :
    let x : Surroundings := ⟨⟨⟨2000, 1, 1⟩, 0, 0, 0, 0, some 0⟩, none, fun _ => ""⟩
    let doc : Document := ⟨.list [.map (entryFields [lastByte] false "author")], none⟩
    (∃ ss, doc.check .standard = .ok ss) ∧
      (execute x ["expand", lastByte] ⟨["work"], []⟩).1 =
        .error (.failure (.stray ⟨0x4FF, 12, 12⟩)) := by
  intro x doc
  have hfields : Spells [lastByte] false "author" (entryFields [lastByte] false "author") :=
    spells_entryFields _ _ _
  exact ⟨(hfields.exists_check_iff rfl).2 ⟨by decide, .author, rfl⟩, by decide +kernel⟩

end CssMargin.Command
