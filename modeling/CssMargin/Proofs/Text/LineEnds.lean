/-
# Texts that differ in their line ends

A line can end in three ways, and a text file is read with all of them made a line feed.  The texts
that are read as a given one are those with some line end for each of its line feeds, where a
carriage return on its own must not come before a line feed, since the two would be one line end:
this is `unifyLines_eq_iff`.  If all lines end in the same way, nothing can run together, so that a
text is read as itself in whichever way its lines are ended, which is `unifyLines_endLines`.
-/
import CssMargin.Disk.Text
import Mathlib.Tactic.Common
namespace CssMargin.Text

/-- The ways to end a line. -/
inductive LineEnd where
  /-- A line feed. -/
  | lineFeed
  /-- A carriage return. -/
  | carriageReturn
  /-- A carriage return and a line feed. -/
  | both
deriving DecidableEq, Repr

/-- The characters of a line end. -/
def LineEnd.text : LineEnd → List Char
  | .lineFeed => ['\n']
  | .carriageReturn => ['\r']
  | .both => ['\r', '\n']

/-- A text with every line feed replaced by a line end. -/
def endLines (e : LineEnd) (s : List Char) : List Char :=
  s.flatMap fun c => if c = '\n' then e.text else [c]

/-- Whether the second text is the first one with some line end for each of its line feeds. -/
inductive Respells : List Char → List Char → Prop where
  /-- Nothing is left. -/
  | nil : Respells [] []
  /-- A character that belongs to no line end is kept. -/
  | char {c : Char} {s t : List Char} (hfeed : c ≠ '\n') (hreturn : c ≠ '\r')
    (h : Respells s t) : Respells (c :: s) (c :: t)
  /-- A line feed is replaced, by a carriage return only if no line feed follows. -/
  | lineEnd (e : LineEnd) {s t : List Char} (hjoin : e = .carriageReturn → t.head? ≠ some '\n')
    (h : Respells s t) : Respells ('\n' :: s) (e.text ++ t)

variable {s t : List Char}

/-! ### Reading -/

lemma unifyLines_carriageReturn (h : t.head? ≠ some '\n') :
    unifyLines ('\r' :: t) = '\n' :: unifyLines t := by
  rw [unifyLines]
  · rfl
  · rintro r - rfl
    exact h rfl

lemma unifyLines_lineEnd {e : LineEnd} (hjoin : e = .carriageReturn → t.head? ≠ some '\n') :
    unifyLines (e.text ++ t) = '\n' :: unifyLines t := by
  cases e with
  | lineFeed => exact unifyLines_cons_of_ne (by decide) t
  | carriageReturn => exact unifyLines_carriageReturn (hjoin rfl)
  | both => exact unifyLines_crlf t

/-- A text is another way to write what it is read as. -/
lemma respells_unifyLines (t : List Char) : Respells (unifyLines t) t := by
  fun_induction unifyLines t with
  | case1 => exact .nil
  | case2 r ih => exact .lineEnd .both (fun h => by cases h) ih
  | case3 c r hpair ih =>
    by_cases hreturn : c = '\r'
    · subst hreturn
      rw [if_pos rfl]
      refine .lineEnd .carriageReturn (fun _ hhead => ?_) ih
      obtain ⟨r', rfl⟩ := List.head?_eq_some_iff.1 hhead
      exact hpair r' rfl rfl
    · rw [if_neg hreturn]
      by_cases hfeed : c = '\n'
      · subst hfeed
        exact .lineEnd .lineFeed (fun h => by cases h) ih
      · exact .char hfeed hreturn ih

/-- The texts that are read as a given one. -/
theorem unifyLines_eq_iff : unifyLines t = s ↔ Respells s t := by
  constructor
  · rintro rfl
    exact respells_unifyLines t
  · intro h
    induction h with
    | nil => rfl
    | char hfeed hreturn h ih => rw [unifyLines_cons_of_ne hreturn, ih]
    | lineEnd e hjoin h ih => rw [unifyLines_lineEnd hjoin, ih]

/-! ### One line end throughout -/

lemma endLines_cons (e : LineEnd) (c : Char) (s : List Char) :
    endLines e (c :: s) = (if c = '\n' then e.text else [c]) ++ endLines e s := rfl

lemma lineFeed_not_mem_endLines (s : List Char) : '\n' ∉ endLines .carriageReturn s := by
  intro h
  obtain ⟨c, -, hc⟩ := List.mem_flatMap.1 h
  split at hc
  · exact absurd (List.mem_singleton.1 hc) (by decide)
  · rename_i hfeed
    exact hfeed (List.mem_singleton.1 hc).symm

lemma respells_endLines (hs : '\r' ∉ s) (e : LineEnd) : Respells s (endLines e s) := by
  induction s with
  | nil => exact .nil
  | cons c s ih =>
    simp only [List.mem_cons, not_or] at hs
    rw [endLines_cons]
    by_cases hfeed : c = '\n'
    · subst hfeed
      rw [if_pos rfl]
      refine .lineEnd e ?_ (ih hs.2)
      -- there is no line feed for the carriage return to run together with
      rintro rfl hhead
      exact lineFeed_not_mem_endLines s (List.mem_of_mem_head? hhead)
    · rw [if_neg hfeed]
      exact .char hfeed (Ne.symm hs.1) (ih hs.2)

/-- A text is read as itself in whichever way its lines are ended. -/
theorem unifyLines_endLines (hs : '\r' ∉ s) (e : LineEnd) : unifyLines (endLines e s) = s :=
  unifyLines_eq_iff.2 (respells_endLines hs e)

end CssMargin.Text
