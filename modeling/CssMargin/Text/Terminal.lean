/-
# Terminal control sequences

Text that goes to an output that is not a terminal loses its colour codes: every sequence that
consists of ESC, `[`, any number of digits, semicolons and question marks, and one ASCII letter.
Matches are taken from the left and do not overlap.
-/
import CssMargin.Text.Basic
namespace CssMargin.Text

/-- The characters that may stand between the opening of a control sequence and its letter. -/
def isControlParameter (c : Char) : Bool := c.isDigit || c == ';' || c == '?'

/-- What follows a control sequence whose opening has just been read, if it is complete. -/
def controlTail? (s : List Char) : Option (List Char) :=
  match s.dropWhile isControlParameter with
  | c :: r => if c.isAlpha then some r else none
  | [] => none

theorem length_controlTail?_lt {s r : List Char} (h : controlTail? s = some r) :
    r.length < s.length := by
  have hd := (List.dropWhile_suffix (l := s) isControlParameter).length_le
  unfold controlTail? at h
  split at h
  · rename_i c r' heq
    rw [heq] at hd
    split at h
    · cases h
      simp only [List.length_cons] at hd
      omega
    · cases h
  · cases h

/-- A text without its control sequences. -/
def dropControls (s : List Char) : List Char :=
  match s with
  | [] => []
  | '\x1b' :: '[' :: r =>
    match _h : controlTail? r with
    | some rest => dropControls rest
    | none => '\x1b' :: dropControls ('[' :: r)
  | c :: r => c :: dropControls r
termination_by s.length
decreasing_by
  · have := length_controlTail?_lt _h
    simp only [List.length_cons]
    omega
  · simp
  · simp

/-- A text as a plain output shows it.  Halves of surrogate pairs are in no control sequence. -/
def plain (t : Text) : Text := t.map fun s => String.ofList (dropControls s.toList)

theorem dropControls_cons_of_ne {c : Char} (h : c ≠ '\x1b') (r : List Char) :
    dropControls (c :: r) = c :: dropControls r := by
  rw [dropControls]
  intro r' hc
  exact absurd hc h

/-- A text without the escape character is shown as it is. -/
theorem dropControls_eq_self {s : List Char} (h : '\x1b' ∉ s) : dropControls s = s := by
  induction s with
  | nil => simp [dropControls]
  | cons c r ih =>
    simp only [List.mem_cons, not_or] at h
    rw [dropControls_cons_of_ne (fun e => h.1 e.symm), ih h.2]

/-- A line end after a text completes no control sequence in it. -/
theorem controlTail?_concat_newline (s : List Char) :
    controlTail? (s ++ ['\n']) = (controlTail? s).map (· ++ ['\n']) := by
  have hparameter : isControlParameter '\n' = false := by decide
  have hletter : '\n'.isAlpha = false := by decide
  induction s with
  | nil => simp [controlTail?, hparameter, hletter]
  | cons c r ih =>
    by_cases hc : isControlParameter c = true
    · simpa only [controlTail?, List.cons_append, List.dropWhile_cons_of_pos hc] using ih
    · rw [List.cons_append, controlTail?, controlTail?, List.dropWhile_cons_of_neg hc,
        List.dropWhile_cons_of_neg hc]
      dsimp only
      split
      · rfl
      · rfl

/-- A line end after a text stays, and is no part of a control sequence. -/
theorem dropControls_concat_newline (s : List Char) :
    dropControls (s ++ ['\n']) = dropControls s ++ ['\n'] := by
  fun_induction dropControls s with
  | case1 => rw [List.nil_append, dropControls_eq_self (by decide)]
  | case2 r rest h ih =>
    have htail := controlTail?_concat_newline r
    rw [h, Option.map_some] at htail
    rw [List.cons_append, List.cons_append, dropControls]
    split
    · rename_i rest' h'
      rw [htail] at h'
      cases h'
      exact ih
    · rename_i h'
      rw [htail] at h'
      cases h'
  | case3 r h ih =>
    have htail := controlTail?_concat_newline r
    rw [h, Option.map_none] at htail
    rw [List.cons_append, List.cons_append, dropControls]
    split
    · rename_i rest' h'
      rw [htail] at h'
      cases h'
    · rw [← List.cons_append, ih, List.cons_append]
  | case4 c r hne ih =>
    rw [List.cons_append, dropControls, ih, List.cons_append]
    intro r' hc hr
    cases r with
    | nil => cases hr
    | cons b r => exact hne r hc (by rw [(List.cons.inj hr).1])

@[simp] theorem plain_coe (s : String) :
    plain s = String.ofList (dropControls s.toList) := rfl

/-- No half is left out. -/
@[simp] theorem isWhole_plain (t : Text) : (plain t).isWhole = t.isWhole := by
  obtain ⟨s, r⟩ := t
  cases r <;> rfl

theorem plain_concat_newline (t : Text) : plain (t ++ "\n") = plain t ++ "\n" := by
  have hnewline : "\n".toList = ['\n'] := by decide
  obtain ⟨s, r⟩ := t
  induction r generalizing s with
  | nil =>
    simp only [coe_append_coe, plain_coe, String.toList_append, hnewline,
      dropControls_concat_newline, String.ofList_append]
  | cons x r ih =>
    have h := ih x.2
    simp only [cons_append, plain, map, List.map_cons] at h ⊢
    simp only [Text.mk.injEq, List.cons.injEq, Prod.mk.injEq, true_and]
    exact ⟨congrArg Text.head h, congrArg Text.tail h⟩

end CssMargin.Text
