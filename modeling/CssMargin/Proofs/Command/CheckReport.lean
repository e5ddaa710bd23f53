/-
# What a check says in text and in JSON

`validate` says what it finds in one of two formats: as lines on the standard error, or as an object
on the standard output.  Both come from one verdict on the file, and they say the same.  The object
lists the problems as they come from the check, while the lines are sorted before they are printed;
but what a check finds is in the order of reports already, so that sorting does not move anything.
From an item of the object, its line can be put together again.
-/
import CssMargin.Proofs.Command.LogOptions
import CssMargin.Proofs.Json.RoundTrip
import CssMargin.Proofs.Shorthand.Report
namespace CssMargin.Command

open Run

/-! ### Items and lines -/

/-- The text under a key of an object, if there is one. -/
def textUnder (k : String) (j : Json) : Option Text :=
  match j.get? k with
  | some (.text s) => some s
  | _ => none

/-- The line that an item stands for: its file and its path, as far as they are there and not empty,
with a colon between them, or `<input>` without both of them; then its code and its message. -/
def itemLine (item : Json) : Text :=
  let place : Text :=
    match [textUnder "file" item, textUnder "path" item].filterMap
        (·.filter (· ≠ ("" : Text))) with
    | [] => "<input>"
    | parts => Text.join ":" parts
  place ++ ": " ++ (textUnder "code" item).getD "" ++ ": " ++ (textUnder "message" item).getD ""

/-- From the item of a problem its line is put together again. -/
lemma itemLine_item (p : Problem) : itemLine p.item = p.text := by
  obtain ⟨stage, code, message, file, place⟩ := p
  have hfile : textUnder "file" (Problem.mk stage code message file place).item = file := by
    cases file <;> rfl
  have hpath : textUnder "path" (Problem.mk stage code message file place).item =
      (Problem.mk stage code message file place).placeText := by
    cases place <;> rfl
  rw [itemLine, hfile, hpath]
  rfl

/-! ### The verdict -/

/-- What a check finds out about a file. -/
inductive Verdict where
  /-- It is refused because of problems, with an exit code. -/
  | refused (code : Nat) (ps : List Problem)
  /-- It is accepted and has shorthands. -/
  | accepted (ss : List Shorthand)

namespace Verdict

/-- The verdict on the file at a path, unless a failure ends the run. -/
def ofFile (x : Surroundings) (d : Disk) (path : Text) : Except Failure Verdict :=
  match loadDocument d (Path.ofText path) with
  | .error (.failure f) => .error f
  | .error (.fault f) => .ok (.refused 1 [loadProblem x path f])
  | .ok doc =>
    match doc.check .standard with
    | .error ps => .ok (.refused 2 ps)
    | .ok ss => .ok (.accepted ss)

/-- Say a verdict in a format. -/
def say (format : Text) : Verdict → Run Unit
  | .refused code ps => stopCheck format code ps
  | .accepted ss =>
    if format = "json" then printCheck [] (summaryItem ss) else Run.printLine (summaryText ss)

/-- How a run ends that has said a verdict. -/
def result : Verdict → Except Halt Unit
  | .refused code _ => .error (.exit code)
  | .accepted _ => .ok ()

/-- The problems of a verdict. -/
def problems : Verdict → List Problem
  | .refused _ ps => ps
  | .accepted _ => []

/-- The summary of a verdict as an object. -/
def summary : Verdict → Json
  | .refused .. => .null
  | .accepted ss => summaryItem ss

/-- The object that says a verdict. -/
def report (v : Verdict) : Json :=
  resultItem .validate v.problems.isEmpty [("error_count", .int v.problems.length),
    ("errors", .list (v.problems.map Problem.item)), ("summary", v.summary)]

/-- Whether a verdict is one that can be given: a refusal has an exit code of its own and problems,
and these are in the order of reports. -/
def Sound : Verdict → Prop
  | .refused code ps => (code = 1 ∨ code = 2) ∧ ps ≠ [] ∧ Problem.sort ps = ps
  | .accepted _ => True

end Verdict

/-- Of the surroundings only the wording about a text that is not YAML matters. -/
lemma Verdict.ofFile_congr {x x' : Surroundings} (h : x'.say = x.say) (d : Disk) (path : Text) :
    Verdict.ofFile x' d path = Verdict.ofFile x d path := by
  have hproblem : loadProblem x' path = loadProblem x path := by
    funext f
    rw [loadProblem, loadProblem, h]
  unfold Verdict.ofFile
  rw [hproblem]

lemma Verdict.sound_ofFile {x : Surroundings} {d : Disk} {path : Text} {v : Verdict}
    (h : Verdict.ofFile x d path = .ok v) : v.Sound := by
  unfold Verdict.ofFile at h
  split at h
  · cases h
  · cases h
    exact ⟨.inl rfl, List.cons_ne_nil _ _, Problem.sort_singleton _⟩
  · split at h
    · rename_i hcheck
      cases h
      exact ⟨.inr rfl, ne_nil_of_check_eq_error hcheck, sort_of_check_eq_error hcheck⟩
    · cases h
      trivial

/-- A check comes to a verdict, whatever the format is, and says it. -/
lemma outcome_performValidate (x : Surroundings) (path : Text) {format : Text}
    (h : checkFormats.any (fun name => format == name) = true) (s : Session) :
    (performValidate x path format).outcome s = match Verdict.ofFile x s.disk path with
      | .error f => (.error (.failure f), s)
      | .ok v => (v.say format).outcome s := by
  have hload := outcome_load path s
  rw [performValidate, if_pos h]
  unfold Verdict.ofFile
  cases hdoc : loadDocument s.disk (Path.ofText path) with
  | error e =>
    rw [hdoc] at hload
    cases e with
    | fault f => rw [outcome_bind_of_ok hload]; rfl
    | failure f => rw [outcome_bind_of_error hload]
  | ok doc =>
    rw [hdoc] at hload
    rw [outcome_bind_of_ok hload]
    dsimp only
    cases doc.check .standard with
    | error ps => rfl
    | ok ss => rfl

/-! ### The verdict in text -/

lemma reportText_nil : reportText [] = "" := by
  rw [reportText, Problem.sort_nil]
  rfl

lemma exists_outcome_say_text (v : Verdict) (s : Session) :
    ∃ s', (v.say "text").outcome s = (v.result, s') ∧
      s'.errors = s.errors ++ reportText v.problems := by
  have hformat : ¬ ("text" : Text) = "json" := by decide
  cases v with
  | refused code ps =>
    rw [Verdict.say, stopCheck, if_neg hformat]
    exact ⟨_, outcome_stop code ps s, rfl⟩
  | accepted ss =>
    rw [Verdict.say, if_neg hformat]
    refine ⟨_, outcome_printLine_coe (summaryText ss) s, ?_⟩
    rw [Verdict.problems, reportText_nil, String.append_empty]

/-- The lines of problems in the order of reports, put together from their items. -/
lemma reportText_eq_join_itemLine {ps : List Problem} (h : Problem.sort ps = ps) :
    reportText ps =
      String.join ((ps.map Problem.item).map fun i =>
        (Text.plain (itemLine i) ++ "\n").escaped) := by
  rw [reportText, h, List.map_map]
  refine congrArg String.join (List.map_congr_left fun p _ => ?_)
  rw [Function.comp_apply, itemLine_item, Text.plain_concat_newline]

/-! ### The verdict in JSON -/

open Json in
lemma integral_problemItem (p : Problem) : Integral p.item := by
  have hoptional (o : Option Text) : Integral (Problem.optionalText o) := by
    cases o with
    | none => exact .null
    | some t => exact .text t
  refine .object fun m hm => ?_
  simp only [List.mem_cons, List.not_mem_nil, or_false] at hm
  rcases hm with rfl | rfl | rfl | rfl | rfl | rfl
  · exact .text _
  · exact .text _
  · exact hoptional _
  · exact hoptional _
  · exact .text _
  · exact .text _

open Json in
lemma integral_summaryItem (ss : List Shorthand) : Integral (summaryItem ss) := by
  refine .object fun m hm => ?_
  simp only [List.mem_cons, List.not_mem_nil, or_false] at hm
  rcases hm with rfl | rfl
  · exact .int _
  · refine .object fun m hm => ?_
    obtain ⟨a, -, rfl⟩ := List.mem_map.1 hm
    exact .int _

open Json in
lemma Verdict.integral_report (v : Verdict) : Integral v.report := by
  refine .object fun m hm => ?_
  simp only [List.mem_append, List.mem_cons, List.not_mem_nil, or_false] at hm
  rcases hm with (rfl | rfl | rfl) | rfl | rfl | rfl
  · exact .text _
  · exact .text _
  · exact .bool _
  · exact .int _
  · refine .list fun j hj => ?_
    obtain ⟨p, -, rfl⟩ := List.mem_map.1 hj
    exact integral_problemItem p
  · cases v with
    | refused code ps => exact .null
    | accepted ss => exact integral_summaryItem ss

lemma outcome_say_json (v : Verdict) (s : Session) :
    (v.say "json").outcome s =
      (v.result, { s with output := s.output ++ (Json.write .result v.report ++ "\n") }) := by
  have hprint : (printItem v.report).outcome s =
      (.ok (), { s with output := s.output ++ (Json.write .result v.report ++ "\n") }) :=
    outcome_print_of_ok (by rw [Text.coe_append_coe, v.integral_report.plain_write,
      Text.whole_coe]) s
  cases v with
  | refused code ps =>
    rw [Verdict.say, stopCheck, if_pos rfl]
    exact outcome_bind_of_ok hprint
  | accepted ss =>
    rw [Verdict.say, if_pos rfl]
    exact hprint

/-! ### The two runs -/

section Runs

variable {x : Surroundings} {args : List Text} {d : Disk} {level logFormat path format : Text}

/-- A run that checks a file comes to the verdict on it and says it. -/
lemma exists_execute_validate (hasks : Asks args level logFormat (.validate path format))
    (hlogging : AcceptsLogging level logFormat)
    (hformat : checkFormats.any (fun name => format == name) = true) :
    ∃ l, execute x args d = match Verdict.ofFile x d path with
      | .error f => (.error (.failure f), { Session.start d with logger := l })
      | .ok v => (v.say format).outcome { Session.start d with logger := l } := by
  obtain ⟨l, hl⟩ := exists_execute_eq_perform hasks hlogging x d
  refine ⟨l, ?_⟩
  rw [hl, perform, outcome_performValidate x path hformat]
  dsimp only [Session.start]

/-- A failure of loading ends the check in every format. -/
lemma execute_validate_of_failure {f : Failure}
    (hasks : Asks args level logFormat (.validate path format))
    (hlogging : AcceptsLogging level logFormat)
    (hformat : checkFormats.any (fun name => format == name) = true)
    (h : Verdict.ofFile x d path = .error f) : (execute x args d).1 = .error (.failure f) := by
  obtain ⟨l, hl⟩ := exists_execute_validate hasks hlogging hformat
  rw [hl, h]

lemma execute_validate_text {v : Verdict}
    (hasks : Asks args level logFormat (.validate path "text"))
    (hlogging : AcceptsLogging level logFormat) (h : Verdict.ofFile x d path = .ok v) :
    (execute x args d).1 = v.result ∧ (execute x args d).2.errors = reportText v.problems := by
  obtain ⟨l, hl⟩ := exists_execute_validate hasks hlogging (by decide)
  obtain ⟨s', hs', herrors⟩ := exists_outcome_say_text v { Session.start d with logger := l }
  rw [hl, h]
  dsimp only
  rw [hs', herrors]
  exact ⟨rfl, String.empty_append⟩

lemma execute_validate_json {v : Verdict}
    (hasks : Asks args level logFormat (.validate path "json"))
    (hlogging : AcceptsLogging level logFormat) (h : Verdict.ofFile x d path = .ok v) :
    (execute x args d).1 = v.result ∧
      (execute x args d).2.output = Json.write .result v.report ++ "\n" := by
  obtain ⟨l, hl⟩ := exists_execute_validate hasks hlogging (by decide)
  rw [hl, h]
  dsimp only
  rw [outcome_say_json]
  exact ⟨rfl, String.empty_append⟩

end Runs

/-- **Text and JSON agree.**  Let two command lines ask for the check of one file, the first in text
and the second in JSON, and let the wording about a text that is not YAML be the same.  Their runs
end with the same exit code or with the same failure.  Unless this is a failure, the second run
prints an object with a list of items, and with their number.  The first run prints, on the standard
error, the lines of these items and nothing else: one line each, in the same order, with control
sequences left out.  If the exit code is not 0 the object says so and has no summary; if it is 0
there are no items, and so no lines. -/
theorem validate_text_agrees_with_json (x x' : Surroundings) (d : Disk)
    {textArgs jsonArgs : List Text} {level logFormat level' logFormat' path : Text}
    (hsay : x'.say = x.say)
    (htext : Asks textArgs level logFormat (.validate path "text"))
    (hjson : Asks jsonArgs level' logFormat' (.validate path "json"))
    (hlogging : AcceptsLogging level logFormat) (hlogging' : AcceptsLogging level' logFormat') :
    (execute x textArgs d).1 = (execute x' jsonArgs d).1 ∧
    ∀ code, exitCode? (execute x textArgs d).1 = some code →
      ∃ (report : Json) (items : List Json),
        (execute x' jsonArgs d).2.output = Json.write .result report ++ "\n" ∧
        report.get? "errors" = some (.list items) ∧
        report.get? "error_count" = some (.int items.length) ∧
        (execute x textArgs d).2.errors =
          String.join (items.map fun i => (Text.plain (itemLine i) ++ "\n").escaped) ∧
        (code ≠ 0 →
          report.get? "ok" = some (.bool false) ∧ report.get? "summary" = some .null) ∧
        (code = 0 → items = [] ∧ report.get? "ok" = some (.bool true) ∧
          (execute x textArgs d).2.errors = "") := by
  cases hverdict : Verdict.ofFile x d path with
  | error f =>
    have ht := execute_validate_of_failure (x := x) htext hlogging (by decide) hverdict
    have hj := execute_validate_of_failure (x := x') hjson hlogging' (by decide)
      ((Verdict.ofFile_congr hsay d path).trans hverdict)
    rw [ht, hj]
    exact ⟨rfl, fun code hcode => by cases hcode⟩
  | ok v =>
    obtain ⟨ht, herrors⟩ := execute_validate_text (x := x) htext hlogging hverdict
    obtain ⟨hj, houtput⟩ := execute_validate_json (x := x') hjson hlogging'
      ((Verdict.ofFile_congr hsay d path).trans hverdict)
    have hsound := Verdict.sound_ofFile hverdict
    rw [ht, hj, herrors, houtput]
    refine ⟨rfl, fun code hcode => ⟨v.report, v.problems.map Problem.item, rfl, rfl, ?_, ?_⟩⟩
    · rw [List.length_map]
      rfl
    cases v with
    | refused n ps =>
      obtain ⟨hn, hne, hsort⟩ := hsound
      have hempty : ps.isEmpty = false := List.isEmpty_eq_false_iff.2 hne
      have hcode : code ≠ 0 := by
        cases hcode
        rcases hn with rfl | rfl <;> decide
      -- the items are in the order of reports, so that the sorted lines are theirs, one by one
      refine ⟨reportText_eq_join_itemLine hsort, fun _ => ⟨?_, rfl⟩,
        fun hzero => absurd hzero hcode⟩
      rw [← hempty]
      rfl
    | accepted ss =>
      cases hcode
      exact ⟨reportText_nil, fun hne => absurd rfl hne, fun _ => ⟨rfl, rfl, reportText_nil⟩⟩

/-- A disk with a document of eleven bad entries. -/
def manyBadEntries : Disk :=
  ⟨["work"], [(["work", "margins.yaml"],
    .file (Text.encodeUtf8 "declarations: [0, 0, 0, 0, 0, 0, 0, 0, 0, 0, 0]\n".toList))]⟩

/-- Eleven bad entries are reported in both formats; the second command line says something about
logging too. -/
theorem validate_text_agrees_with_json_many :
    let x : Surroundings := ⟨⟨⟨2000, 1, 1⟩, 0, 0, 0, 0, some 0⟩, none, fun _ => ""⟩
    let textArgs : List Text := ["validate", "margins.yaml"]
    let jsonArgs : List Text :=
      ["--log-level", "debug", "validate", "--format=json", "margins.yaml"]
    Asks textArgs "WARNING" "text" (.validate "margins.yaml" "text") ∧
      Asks jsonArgs "debug" "text" (.validate "margins.yaml" "json") ∧
      AcceptsLogging "WARNING" "text" ∧ AcceptsLogging "debug" "text" ∧
      (execute x textArgs manyBadEntries).1 = (execute x jsonArgs manyBadEntries).1 ∧
      exitCode? (execute x textArgs manyBadEntries).1 = some 2 ∧
      ∃ (report : Json) (items : List Json),
        (execute x jsonArgs manyBadEntries).2.output = Json.write .result report ++ "\n" ∧
        report.get? "errors" = some (.list items) ∧
        report.get? "error_count" = some (.int items.length) ∧
        (execute x textArgs manyBadEntries).2.errors =
          String.join (items.map fun i => (Text.plain (itemLine i) ++ "\n").escaped) ∧
        report.get? "ok" = some (.bool false) ∧ report.get? "summary" = some .null := by
  intro x textArgs jsonArgs
  have htext : Asks textArgs "WARNING" "text" (.validate "margins.yaml" "text") :=
    ⟨⟨"WARNING", "text", .validate, (["margins.yaml"] : List Text)⟩, by decide +kernel, rfl, rfl,
      by decide +kernel⟩
  have hjson : Asks jsonArgs "debug" "text" (.validate "margins.yaml" "json") :=
    ⟨⟨"debug", "text", .validate, (["--format=json", "margins.yaml"] : List Text)⟩,
      by decide +kernel, rfl, rfl, by decide +kernel⟩
  have hlogging : AcceptsLogging "WARNING" "text" := by decide +kernel
  have hlogging' : AcceptsLogging "debug" "text" := by decide +kernel
  have hcode : exitCode? (execute x textArgs manyBadEntries).1 = some 2 := by decide +kernel
  obtain ⟨hend, hagree⟩ :=
    validate_text_agrees_with_json x x manyBadEntries rfl htext hjson hlogging hlogging'
  obtain ⟨report, items, houtput, hitems, hcount, herrors, hbad, -⟩ := hagree 2 hcode
  obtain ⟨hok, hsummary⟩ := hbad (by decide)
  exact ⟨htext, hjson, hlogging, hlogging', hend, hcode, report, items, houtput, hitems, hcount,
    herrors, hok, hsummary⟩

end CssMargin.Command
