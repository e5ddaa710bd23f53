/-
# Moving along a text

What is left of a text after a step of a reader, by what was left before it.
-/
import CssMargin.Yaml.Cursor
import Mathlib.Tactic.Common
namespace CssMargin.Yaml

/-- The line end that a reader sees: the next-line control is taken for a line feed. -/
def unifiedBreak (x : Char) : Char := if x = '\u0085' then '\n' else x

namespace Cursor

variable {c : Cursor} {x : Char} {s r : List Char}

lemma rest_step_cons (h : c.rest = x :: r) : c.step.rest = r := by
  rw [rest_step, h, List.tail_cons]

lemma rest_advance_append (h : c.rest = s ++ r) : (c.advance s.length).rest = r := by
  rw [rest_advance, h, List.drop_left]

/-- The characters of a class are passed. -/
lemma rest_spanWhile (p : Char → Bool) (c : Cursor) :
    c.rest = (c.spanWhile p).1 ++ (c.spanWhile p).2.rest := by
  have hdrop : (c.spanWhile p).2.rest = c.rest.dropWhile p := rest_skipWhile p c
  rw [hdrop]
  exact List.takeWhile_append_dropWhile.symm

/-- The characters of a class come up to the first that is not of the class. -/
lemma spanWhile_append {p : Char → Bool} (h : c.rest = s ++ x :: r) (hs : ∀ y ∈ s, p y = true)
    (hx : p x = false) : c.spanWhile p = (s, c.advance s.length) := by
  have htake : c.rest.takeWhile p = s := by
    rw [h, List.takeWhile_append_of_pos hs, List.takeWhile_cons, hx]
    simp
  rw [spanWhile, htake]

/-- Where the next character is not of the class there are none. -/
lemma spanWhile_of_not {p : Char → Bool} (h : c.rest = x :: r) (hx : p x = false) :
    c.spanWhile p = ([], c) :=
  spanWhile_append (s := []) h (fun _ h => absurd h List.not_mem_nil) hx

lemma takeBreak?_of_break (h : c.rest = x :: r) (hx : isBreak x = true) :
    c.takeBreak? = some (unifiedBreak x, c.step) := by
  unfold takeBreak?
  rw [h]
  exact if_pos hx

lemma takeBreak?_of_not_break (h : c.rest = x :: r) (hx : isBreak x = false) :
    c.takeBreak? = none := by
  unfold takeBreak?
  rw [h]
  exact if_neg (by rw [hx]; decide)

/-- A line that does not begin with a hyphen or a point does not begin with a marker. -/
lemma atMarker_eq_false (h : c.rest = x :: r) (hx : x ≠ '-' ∧ x ≠ '.') : c.atMarker = false := by
  have hthree (y : Char) (hy : x ≠ y) : c.atThree y = false := by
    unfold atThree
    rw [h]
    split
    · rename_i heq
      cases heq
      simp [hy]
    · rfl
  rw [atMarker, hthree '-' hx.1, hthree '.' hx.2]
  rfl

lemma atEnd_eq_false (h : c.rest = x :: r) : c.atEnd = false := by
  rw [atEnd, h]
  rfl

/-- After a line end a line begins. -/
lemma column_step_of_break (h : c.rest = x :: r) (hx : isBreak x = true) : c.step.column = 0 := by
  unfold step
  rw [h]
  simp [hx]

/-- A character other than a line end and a byte order mark takes up a column. -/
lemma step_of_not_break (h : c.rest = x :: r) (hx : isBreak x = false) (hmark : x ≠ '\uFEFF') :
    c.step = ⟨r, c.line, c.column + 1, c.index + 1⟩ := by
  unfold step
  rw [h]
  simp [hx, hmark]

/-- Characters other than line ends and byte order marks take up a column each. -/
lemma advance_of_not_break (h : c.rest = s ++ r)
    (hs : ∀ y ∈ s, isBreak y = false ∧ y ≠ '\uFEFF') :
    c.advance s.length = ⟨r, c.line, c.column + s.length, c.index + s.length⟩ := by
  induction s generalizing c with
  | nil =>
    rw [List.length_nil, advance, Nat.add_zero, Nat.add_zero]
    rw [List.nil_append] at h
    rw [← h]
  | cons y s ih =>
    have hy := hs y (List.mem_cons_self ..)
    have hstep := step_of_not_break h hy.1 hy.2
    have hrest : c.step.rest = s ++ r := rest_step_cons h
    rw [List.length_cons, advance, ih hrest fun z hz => hs z (List.mem_cons_of_mem _ hz), hstep]
    dsimp only
    congr 1 <;> omega

/-- Blanks take up a column each. -/
lemma advance_blanks {n : Nat} (h : c.rest = List.replicate n ' ' ++ r) :
    c.advance n = ⟨r, c.line, c.column + n, c.index + n⟩ := by
  have hblank : ∀ y ∈ List.replicate n ' ', isBreak y = false ∧ y ≠ '\uFEFF' := by
    intro y hy
    rw [List.eq_of_mem_replicate hy]
    decide
  have hadvance := advance_of_not_break h hblank
  rwa [List.length_replicate] at hadvance

end Cursor

lemma isSpace_eq_false {x : Char} : isSpace x = false ↔ isGap x = false ∧ isBreak x = false := by
  rw [isSpace, Bool.or_eq_false_iff]

lemma isGap_of_isBreak {x : Char} (h : isBreak x = true) : isGap x = false := by
  by_contra hg
  simp only [isGap, Bool.not_eq_false, Bool.or_eq_true, beq_iff_eq] at hg
  rcases hg with rfl | rfl <;> cases h

end CssMargin.Yaml
