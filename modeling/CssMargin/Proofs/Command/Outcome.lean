/-
# What a step of a run does

A step of a run takes a session and gives a result, or a reason to stop, together with the session
that it leaves behind.  This file has the rules by which the outcome of a command is worked out
from the outcomes of its steps: one rule for each way of putting steps together, and one for each
of the steps that all commands share.
-/
import CssMargin.Command.Perform
import Mathlib.Tactic.Common
namespace CssMargin.Command

namespace Run

variable {α β : Type}

/-- The result of a step in a session, and the session after it. -/
def outcome (r : Run α) (s : Session) : Except Halt α × Session := r.run.run s

/-! ### Putting steps together -/

@[simp] lemma outcome_throw (h : Halt) (s : Session) :
    (throw h : Run α).outcome s = (.error h, s) := rfl

@[simp] lemma outcome_get (s : Session) : (get : Run Session).outcome s = (.ok s, s) := rfl

@[simp] lemma outcome_modify (f : Session → Session) (s : Session) :
    (modify f : Run Unit).outcome s = (.ok (), f s) := rfl

/-- After a step that ends well the next one goes on in the session that is left. -/
lemma outcome_bind_of_ok {r : Run α} {f : α → Run β} {s s' : Session} {a : α}
    (h : r.outcome s = (.ok a, s')) : (r >>= f).outcome s = (f a).outcome s' := by
  change (ExceptT.bindCont f (r.outcome s).1).run (r.outcome s).2 = _
  rw [h]
  rfl

/-- After a step that stops nothing else is done. -/
lemma outcome_bind_of_error {r : Run α} {f : α → Run β} {s s' : Session} {e : Halt}
    (h : r.outcome s = (.error e, s')) : (r >>= f).outcome s = (.error e, s') := by
  change (ExceptT.bindCont f (r.outcome s).1).run (r.outcome s).2 = _
  rw [h]
  rfl

/-! ### Printing, logging and stopping -/

lemma outcome_print_of_ok {t : Text} {u : String} (h : (Text.plain t).whole = .ok u)
    (s : Session) : (print t).outcome s = (.ok (), { s with output := s.output ++ u }) := by
  rw [print, h]
  rfl

/-- A text that cannot be written leaves the session as it was. -/
lemma outcome_print_of_error {t : Text} {x : Text.Stray} (h : (Text.plain t).whole = .error x)
    (s : Session) : (print t).outcome s = (.error (.failure (.stray x)), s) := by
  rw [print, h]
  rfl

lemma stray_of_print {t : Text} {s : Session} {h : Halt}
    (hend : ((print t).outcome s).1 = .error h) : ∃ x, h = .failure (.stray x) := by
  cases hwhole : (Text.plain t).whole with
  | ok u =>
    rw [outcome_print_of_ok hwhole] at hend
    cases hend
  | error x =>
    rw [outcome_print_of_error hwhole] at hend
    cases hend
    exact ⟨x, rfl⟩

@[simp] lemma outcome_print_coe (t : String) (s : Session) : (print t).outcome s =
    (.ok (), { s with output := s.output ++ String.ofList (Text.dropControls t.toList) }) :=
  outcome_print_of_ok (by rw [Text.plain_coe, Text.whole_coe]) s

@[simp] lemma outcome_printLine_coe (t : String) (s : Session) : (printLine t).outcome s =
    (.ok (), { s with output :=
      s.output ++ String.ofList (Text.dropControls (t ++ "\n").toList) }) :=
  outcome_print_coe (t ++ "\n") s

/-- What problems look like on the standard error. -/
def reportText (ps : List Problem) : String :=
  String.join ((Problem.sort ps).map fun p => (Text.plain (p.text ++ "\n")).escaped)

@[simp] lemma outcome_stop (code : Nat) (ps : List Problem) (s : Session) :
    (stop code ps : Run α).outcome s =
      (.error (.exit code), { s with errors := s.errors ++ reportText ps }) := rfl

@[simp] lemma outcome_fail (f : Failure) (s : Session) :
    (fail f : Run α).outcome s = (.error (.failure f), s) := rfl

@[simp] lemma outcome_log (x : Surroundings) (e : Log.Event) (s : Session) :
    (log x e).outcome s =
      (.ok (), { s with errors := s.errors ++ s.logger.write (e.record x.time) }) := rfl

end Run

/-! ### Printing a listing -/

open Run

/-- A declaration as a line that is printed, unless a half keeps it from being written. -/
def printedLine (d : Declaration) : Except Text.Stray String :=
  (Text.plain (d.cssLine ++ "\n")).whole

/-- What is printed of declarations in lines: those in front of the first that cannot be written. -/
def printedLines : List Declaration → String
  | [] => ""
  | d :: r =>
    match printedLine d with
    | .ok t => t ++ printedLines r
    | .error _ => ""

/-- How the printing of lines ends. -/
def linesEnd : List Declaration → Except Halt Unit
  | [] => .ok ()
  | d :: r =>
    match printedLine d with
    | .ok _ => linesEnd r
    | .error x => .error (.failure (.stray x))

/-- How the printing of a listing ends.  Only lines can hold a half; the other formats have escapes
for it. -/
def listingEnd (f : OutputFormat) (ds : List Declaration) : Except Halt Unit :=
  match f with
  | .text => linesEnd ds
  | _ => .ok ()

lemma outcome_printLines (ds : List Declaration) (s : Session) :
    (ds.forM fun d => printLine d.cssLine).outcome s =
      (linesEnd ds, { s with output := s.output ++ printedLines ds }) := by
  induction ds generalizing s with
  | nil =>
    change (Except.ok (), s) = (.ok (), { s with output := s.output ++ "" })
    rw [String.append_empty]
  | cons d r ih =>
    have hcons : (d :: r).forM (fun d => printLine d.cssLine) =
        (printLine d.cssLine >>= fun _ => r.forM fun d => printLine d.cssLine) := rfl
    rw [hcons, linesEnd, printedLines]
    cases hline : printedLine d with
    | ok t =>
      have hprint : (printLine d.cssLine).outcome s =
          (.ok (), { s with output := s.output ++ t }) := outcome_print_of_ok hline s
      rw [outcome_bind_of_ok hprint, ih]
      dsimp only
      rw [String.append_assoc]
    | error x =>
      have hprint : (printLine d.cssLine).outcome s = (.error (.failure (.stray x)), s) :=
        outcome_print_of_error hline s
      rw [outcome_bind_of_error hprint]
      dsimp only
      rw [String.append_empty]

/-- Printing a listing touches the standard output alone. -/
lemma exists_outcome_printListing (name : Name) (f : OutputFormat) (ds : List Declaration)
    (s : Session) : ∃ t, (printListing name f ds).outcome s =
      (listingEnd f ds, { s with output := s.output ++ t }) := by
  cases f with
  | json => exact ⟨_, outcome_printLine_coe (Json.write .result _) s⟩
  | yaml => exact ⟨_, outcome_print_coe (String.ofList (listingYaml ds)) s⟩
  | text => exact ⟨_, outcome_printLines ds s⟩

lemma fst_outcome_printListing (name : Name) (f : OutputFormat) (ds : List Declaration)
    (s : Session) : ((printListing name f ds).outcome s).1 = listingEnd f ds := by
  obtain ⟨t, ht⟩ := exists_outcome_printListing name f ds s
  rw [ht]

section ListingEnd

variable {f : OutputFormat} {ds : List Declaration}

lemma isWhole_cssLine (d : Declaration) :
    (Text.plain (d.cssLine ++ "\n")).isWhole = d.value.isWhole := by
  simp [Declaration.cssLine]

/-- Values without halves can be printed. -/
lemma listingEnd_eq_ok (h : f = .text → ∀ d ∈ ds, d.value.isWhole = true) :
    listingEnd f ds = .ok () := by
  cases f with
  | json => rfl
  | yaml => rfl
  | text =>
    induction ds with
    | nil => rfl
    | cons d r ih =>
      obtain ⟨hd, hr⟩ := List.forall_mem_cons.1 (h rfl)
      have hline : printedLine d = .ok (Text.plain (d.cssLine ++ "\n")).head := by
        rw [printedLine, Text.eq_coe_of_isWhole ((isWhole_cssLine d).trans hd), Text.whole_coe]
      rw [listingEnd, linesEnd, hline]
      exact ih fun _ => hr

/-- In lines, a half in a value is a failure. -/
lemma exists_listingEnd_eq_stray (h : ∃ d ∈ ds, d.value.isWhole = false) :
    ∃ x, listingEnd .text ds = .error (.failure (.stray x)) := by
  induction ds with
  | nil =>
    obtain ⟨d, hd, -⟩ := h
    cases hd
  | cons d r ih =>
    rw [listingEnd, linesEnd]
    cases hline : printedLine d with
    | error x => exact ⟨x, rfl⟩
    | ok t =>
      obtain ⟨d', hd', hhalf⟩ := h
      rcases List.mem_cons.1 hd' with rfl | hr
      · obtain ⟨x, hx⟩ := Text.exists_whole_eq_error ((isWhole_cssLine d').trans hhalf)
        rw [printedLine, hx] at hline
        cases hline
      · exact ih ⟨d', hr, hhalf⟩

lemma listingEnd_eq_ok_iff :
    listingEnd f ds = .ok () ↔ (f = .text → ∀ d ∈ ds, d.value.isWhole = true) := by
  refine ⟨?_, listingEnd_eq_ok⟩
  rintro hok rfl d hd
  by_contra hhalf
  obtain ⟨x, hx⟩ := exists_listingEnd_eq_stray ⟨d, hd, Bool.eq_false_iff.2 hhalf⟩
  rw [hok] at hx
  cases hx

/-- The only failure is that of a half. -/
lemma listingEnd_ok_or_stray (f : OutputFormat) (ds : List Declaration) :
    listingEnd f ds = .ok () ∨ ∃ x, listingEnd f ds = .error (.failure (.stray x)) := by
  by_cases h : f = .text → ∀ d ∈ ds, d.value.isWhole = true
  · exact .inl (listingEnd_eq_ok h)
  · push Not at h
    obtain ⟨rfl, d, hd, hhalf⟩ := h
    exact .inr (exists_listingEnd_eq_stray ⟨d, hd, Bool.eq_false_iff.2 hhalf⟩)

lemma stray_of_listingEnd {h : Halt} (hend : listingEnd f ds = .error h) :
    ∃ x, h = .failure (.stray x) := by
  rcases listingEnd_ok_or_stray f ds with hok | ⟨x, hx⟩
  · rw [hok] at hend
    cases hend
  · rw [hx] at hend
    cases hend
    exact ⟨x, rfl⟩

end ListingEnd

/-! ### Command lines -/

/-- A run of a command line is the outcome of its program in a fresh session. -/
lemma execute_eq_outcome (x : Surroundings) (args : List Text) (d : Disk) :
    execute x args d = (program x args).outcome (.start d) := rfl

/-- Once the name of the command is read, the logger is set up, and only then the rest is read. -/
lemma outcome_program_of_readHead {args : List Text} {head : Head} (h : readHead args = .ok head)
    (x : Surroundings) (s : Session) : (program x args).outcome s =
      (setUpLogging head.logLevel head.logFormat >>= fun _ =>
        ofUsage (readTask head.name head.rest) >>= perform x).outcome s := by
  have hread : (ofUsage (readHead args)).outcome s = (.ok head, s) := by
    rw [h]
    rfl
  rw [program, Run.outcome_bind_of_ok hread]

end CssMargin.Command
