/-
# The stretches of a text

A text is cut into words, blanks and line ends, so that no two neighbours are of one sort and
nothing is lost.  Which sorts can be neighbours is seen from the characters that meet where two
stretches do.
-/
import CssMargin.Yaml.Scalar.Writer
import Mathlib.Data.Bool.AllAny
import Mathlib.Data.List.Chain
import Mathlib.Tactic.Common
namespace CssMargin.Yaml

namespace Stretch

/-- The characters of a stretch. -/
def text : Stretch → List Char
  | .word s => s
  | .blanks n => List.replicate n ' '
  | .breaks s => s

/-- Whether two stretches are of one sort. -/
def SameSort : Stretch → Stretch → Prop
  | .word _, .word _ | .blanks _, .blanks _ | .breaks _, .breaks _ => True
  | _, _ => False

/-- Whether a stretch has characters, and only those of its sort. -/
def Proper : Stretch → Prop
  | .word s => s ≠ [] ∧ ∀ c ∈ s, c ≠ ' ' ∧ isBreak c = false
  | .blanks n => 0 < n
  | .breaks s => s ≠ [] ∧ ∀ c ∈ s, isBreak c = true

/-- Whether stretches are those of a text. -/
structure Cut (ss : List Stretch) : Prop where
  /-- Each is proper. -/
  proper : ∀ t ∈ ss, t.Proper
  /-- Neighbours are of different sorts. -/
  chain : ss.IsChain fun a b => ¬ SameSort a b

lemma Cut.tail {t : Stretch} {ss : List Stretch} (h : Cut (t :: ss)) : Cut ss :=
  ⟨fun u hu => h.proper u (List.mem_cons_of_mem _ hu), h.chain.tail⟩

lemma Cut.head {t : Stretch} {ss : List Stretch} (h : Cut (t :: ss)) : t.Proper :=
  h.proper t (List.mem_cons_self ..)

lemma cut_singleton {t : Stretch} (h : t.Proper) : Cut [t] :=
  ⟨fun u hu => by rw [List.mem_singleton.1 hu]; exact h, List.isChain_singleton t⟩

/-- A stretch of another sort may stand in front. -/
lemma Cut.cons {t u : Stretch} {ss : List Stretch} (ht : t.Proper) (hne : ¬ SameSort t u)
    (h : Cut (u :: ss)) : Cut (t :: u :: ss) := by
  refine ⟨fun v hv => ?_, h.chain.cons_cons hne⟩
  rcases List.mem_cons.1 hv with rfl | hv
  · exact ht
  · exact h.proper v hv

/-- The first stretch may be replaced by one of the same sort. -/
lemma Cut.replace {t u : Stretch} {ss : List Stretch} (ht : t.Proper)
    (hsame : ∀ v, SameSort t v → SameSort u v) (h : Cut (u :: ss)) : Cut (t :: ss) := by
  cases ss with
  | nil => exact cut_singleton ht
  | cons v r =>
    have hne := (List.isChain_cons_cons.1 h.chain).1
    exact Cut.cons ht (fun hs => hne (hsame v hs)) h.tail

/-- A stretch may stand in front of stretches that do not begin with one of its sort. -/
lemma Cut.push {t : Stretch} {ss : List Stretch} (ht : t.Proper)
    (hne : ∀ u r, ss = u :: r → ¬ SameSort t u) (h : Cut ss) : Cut (t :: ss) := by
  cases ss with
  | nil => exact cut_singleton ht
  | cons u r => exact h.cons ht (hne u r rfl)

lemma proper_word_cons {c : Char} {s : List Char} (hblank : c ≠ ' ') (hbreak : isBreak c = false)
    (hs : ∀ x ∈ s, x ≠ ' ' ∧ isBreak x = false) : Proper (.word (c :: s)) :=
  ⟨List.cons_ne_nil _ _, List.forall_mem_cons.2 ⟨⟨hblank, hbreak⟩, hs⟩⟩

lemma proper_breaks_cons {c : Char} {s : List Char} (hbreak : isBreak c = true)
    (hs : ∀ x ∈ s, isBreak x = true) : Proper (.breaks (c :: s)) :=
  ⟨List.cons_ne_nil _ _, List.forall_mem_cons.2 ⟨hbreak, hs⟩⟩

/-- Putting a character in front of stretches puts it in front of their text and keeps them cut. -/
lemma cons_spec {ss : List Stretch} (h : Cut ss) (c : Char) :
    Cut (cons c ss) ∧ (cons c ss).flatMap text = c :: ss.flatMap text := by
  -- for each sort of character, the first stretch is of this sort and grows, or a new one begins
  unfold cons
  split
  · rename_i hc
    split
    · refine ⟨h.replace (Nat.succ_pos _) fun v hv => ?_, ?_⟩
      · cases v <;> exact hv
      · simp [text, hc, List.replicate_succ]
    · rename_i hne
      refine ⟨h.push Nat.one_pos fun u r hss hs => ?_, by simp [text, hc]⟩
      cases u with
      | blanks n => exact hne n r hss
      | word | breaks => exact hs
  split
  · rename_i hc hb
    split
    · refine ⟨h.replace (proper_breaks_cons hb h.head.2) fun v hv => ?_, rfl⟩
      cases v <;> exact hv
    · rename_i hne
      have hproper := proper_breaks_cons hb (fun x hx => absurd hx List.not_mem_nil)
      refine ⟨h.push hproper fun u r hss hs => ?_, by simp [text]⟩
      cases u with
      | breaks s => exact hne s r hss
      | word | blanks => exact hs
  · rename_i hc hb
    have hb' : isBreak c = false := by simpa using hb
    split
    · refine ⟨h.replace (proper_word_cons hc hb' h.head.2) fun v hv => ?_, rfl⟩
      cases v <;> exact hv
    · rename_i hne
      have hproper := proper_word_cons hc hb' (fun x hx => absurd hx List.not_mem_nil)
      refine ⟨h.push hproper fun u r hss hs => ?_, by simp [text]⟩
      cases u with
      | word s => exact hne s r hss
      | blanks | breaks => exact hs

/-- The stretches of a text are cut and make up the text. -/
theorem ofText_spec (s : List Char) : Cut (ofText s) ∧ (ofText s).flatMap text = s := by
  induction s with
  | nil => exact ⟨⟨fun _ h => absurd h List.not_mem_nil, List.isChain_nil⟩, rfl⟩
  | cons c s ih =>
    have h := cons_spec ih.1 c
    rw [ih.2] at h
    exact h

end Stretch

/-! ### Neighbours -/

namespace ScalarStyle

variable {p q : Char → Bool}

/-- Characters that stand next to each other are found. -/
lemma hasAdjacent_middle {c d : Char} (hc : p c = true) (hd : q d = true) (x y : List Char) :
    hasAdjacent p q (x ++ c :: d :: y) = true := by
  induction x with
  | nil => simp [hasAdjacent, hc, hd]
  | cons a x ih =>
    cases x with
    | nil => simpa [hasAdjacent] using Or.inr ih
    | cons b x => simpa [hasAdjacent] using Or.inr ih

/-- What a text has not, the rest of it has not. -/
lemma hasAdjacent_right {x y : List Char} (h : hasAdjacent p q (x ++ y) = false) :
    hasAdjacent p q y = false := by
  induction x with
  | nil => exact h
  | cons a x ih =>
    refine ih ?_
    cases hxy : x ++ y with
    | nil => rfl
    | cons b r =>
      rw [List.cons_append, hxy, hasAdjacent, Bool.or_eq_false_iff] at h
      exact h.2

end ScalarStyle

namespace Stretch

open ScalarStyle

lemma exists_text_eq_cons {t : Stretch} (h : t.Proper) : ∃ c r, t.text = c :: r := by
  cases t with
  | word s | breaks s => exact List.exists_cons_of_ne_nil h.1
  | blanks n => exact ⟨' ', List.replicate (n - 1) ' ', by
      rw [text, ← List.replicate_succ, Nat.sub_add_cancel h]⟩

/-- After blanks that no line end follows there is a word, or nothing. -/
lemma Cut.after_blanks {n : Nat} {ss : List Stretch} (h : Cut (.blanks n :: ss))
    (hadj : hasAdjacent (· == ' ') isBreak ((.blanks n :: ss).flatMap text) = false) :
    ss = [] ∨ ∃ w r, ss = .word w :: r := by
  cases ss with
  | nil => exact Or.inl rfl
  | cons u r =>
    cases u with
    | word w => exact Or.inr ⟨w, r, rfl⟩
    | blanks m => exact absurd trivial (List.isChain_cons_cons.1 h.chain).1
    | breaks b =>
      -- the last blank would stand directly before the first line end
      have hb := h.tail.head
      obtain ⟨c, b', rfl⟩ := List.exists_cons_of_ne_nil hb.1
      have hn : List.replicate n ' ' = List.replicate (n - 1) ' ' ++ [' '] := by
        rw [← List.replicate_succ', Nat.sub_add_cancel h.head]
      have hfound := hasAdjacent_middle (p := (· == ' ')) (q := isBreak) (c := ' ') (by decide)
        (hb.2 c (List.mem_cons_self ..)) (List.replicate (n - 1) ' ') (b' ++ r.flatMap text)
      have htext : (Stretch.blanks n :: .breaks (c :: b') :: r).flatMap text =
          List.replicate (n - 1) ' ' ++ ' ' :: c :: (b' ++ r.flatMap text) := by
        rw [List.flatMap_cons, List.flatMap_cons, text, hn]
        simp [text]
      rw [htext, hfound] at hadj
      cases hadj

/-- After line ends that no blank follows there is a word, or nothing. -/
lemma Cut.after_breaks {b : List Char} {ss : List Stretch} (h : Cut (.breaks b :: ss))
    (hadj : hasAdjacent isBreak (· == ' ') ((.breaks b :: ss).flatMap text) = false) :
    ss = [] ∨ ∃ w r, ss = .word w :: r := by
  cases ss with
  | nil => exact Or.inl rfl
  | cons u r =>
    cases u with
    | word w => exact Or.inr ⟨w, r, rfl⟩
    | breaks m => exact absurd trivial (List.isChain_cons_cons.1 h.chain).1
    | blanks n =>
      -- the last line end would stand directly before the first blank
      have hb := h.head
      have hlast : isBreak (b.getLast hb.1) = true := hb.2 _ (List.getLast_mem hb.1)
      have hn : List.replicate n ' ' = ' ' :: List.replicate (n - 1) ' ' := by
        rw [← List.replicate_succ, Nat.sub_add_cancel h.tail.head]
      have hfound := hasAdjacent_middle (p := isBreak) (q := (· == ' ')) (d := ' ') hlast
        (by decide) b.dropLast (List.replicate (n - 1) ' ' ++ r.flatMap text)
      have htext : (Stretch.breaks b :: .blanks n :: r).flatMap text =
          b.dropLast ++ b.getLast hb.1 :: ' ' ::
            (List.replicate (n - 1) ' ' ++ r.flatMap text) := by
        rw [List.flatMap_cons, List.flatMap_cons, text, text, hn]
        conv_lhs => rw [← List.dropLast_append_getLast hb.1]
        simp
      rw [htext, hfound] at hadj
      cases hadj

end Stretch

end CssMargin.Yaml
