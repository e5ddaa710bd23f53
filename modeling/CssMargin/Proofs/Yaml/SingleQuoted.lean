/-
# Texts between apostrophes

What is written between apostrophes is read word for word and blank for blank, also where a blank
was made a line end.  A stretch of line ends comes back as it was, except that the next-line
control, which a reader takes for a line feed, is not written as one: `Stretch.reread` says what is
left of it.
-/
import CssMargin.Proofs.Yaml.Quoted
import CssMargin.Proofs.Yaml.Stretch
namespace CssMargin.Yaml

/-- What a stretch is read as after it was written between apostrophes. -/
def Stretch.reread : Stretch → List Char
  | .word s => s
  | .blanks n => List.replicate n ' '
  | .breaks s =>
    match writeBreaks s with
    | [] => []
    | b :: bs => foldBreaks (unifiedBreak b) (bs.map unifiedBreak)

/-! ### The stretches one by one -/

lemma continuation_ne_nil {indent : Nat} (h : 0 < indent) : continuation indent ≠ [] := by
  obtain ⟨k, rfl⟩ : ∃ k, indent = k + 1 := ⟨indent - 1, by omega⟩
  exact List.cons_ne_nil _ _

lemma isGap_of_mem_continuation (indent : Nat) : ∀ y ∈ continuation indent, isGap y = true := by
  intro y hy
  rw [List.eq_of_mem_replicate hy]
  rfl

/-- The apostrophes of a word are doubled and read once. -/
lemma readsBetween_doubleQuotes {s t : List Char} {xs : List Point}
    (hs : ∀ c ∈ s, isSpace c = false) (h : ReadsBetween .single t xs) :
    ReadsBetween .single (doubleQuotes s ++ t) (s.map .char ++ xs) := by
  induction s with
  | nil => exact h
  | cons c s ih =>
    have hc := hs c (List.mem_cons_self ..)
    have hrest := ih fun x hx => hs x (List.mem_cons_of_mem _ hx)
    rw [doubleQuotes, List.flatMap_cons, List.append_assoc]
    by_cases hquote : c = '\''
    · rw [if_pos hquote, hquote]
      exact readsBetween_apostrophe hrest
    · rw [if_neg hquote]
      exact readsBetween_char hc hquote (fun hd => Quote.noConfusion hd.1) hrest

/-- What is written of a word begins with no blank. -/
lemma startsWord_doubleQuotes {s : List Char} (hne : s ≠ []) (hs : ∀ c ∈ s, isSpace c = false)
    (r : List Char) : StartsWord (doubleQuotes s ++ r) := by
  obtain ⟨c, s, rfl⟩ := List.exists_cons_of_ne_nil hne
  have hc := hs c (List.mem_cons_self ..)
  rw [doubleQuotes, List.flatMap_cons, List.append_assoc]
  by_cases hquote : c = '\''
  · rw [if_pos hquote]
    exact ⟨'\'', _, rfl, by decide⟩
  · rw [if_neg hquote]
    exact ⟨c, _, rfl, hc⟩

/-- The written line ends of a stretch are folded to what the stretch is read as. -/
lemma exists_writeBreaks {s : List Char} (h : Stretch.Proper (.breaks s)) :
    ∃ b bs, writeBreaks s = b :: bs ∧ isBreak b = true ∧ (∀ y ∈ bs, isBreak y = true) ∧
      Stretch.reread (.breaks s) = foldBreaks (unifiedBreak b) (bs.map unifiedBreak) := by
  obtain ⟨hne, hs⟩ := h
  obtain ⟨c, s, rfl⟩ := List.exists_cons_of_ne_nil hne
  have hall : ∀ y ∈ writeBreaks (c :: s), isBreak y = true := by
    intro y hy
    rw [writeBreaks, List.mem_append] at hy
    rcases hy with hy | hy
    · split at hy
      · rw [List.mem_singleton.1 hy]
        decide
      · exact absurd hy List.not_mem_nil
    · exact hs y hy
  have hcons : ∃ b bs, writeBreaks (c :: s) = b :: bs := by
    rw [writeBreaks]
    split
    · exact ⟨_, _, rfl⟩
    · exact ⟨_, _, rfl⟩
  obtain ⟨b, bs, hw⟩ := hcons
  rw [hw] at hall
  refine ⟨b, bs, hw, hall b (List.mem_cons_self ..), fun y hy =>
    hall y (List.mem_cons_of_mem _ hy), ?_⟩
  rw [Stretch.reread, hw]

/-! ### The whole text -/

/-- Whether stretches can be written between apostrophes. -/
structure SingleStretches (ss : List Stretch) : Prop where
  /-- They are those of a text. -/
  cut : Stretch.Cut ss
  /-- No blank follows a line end. -/
  afterBreak : ScalarStyle.hasAdjacent isBreak (· == ' ') (ss.flatMap Stretch.text) = false
  /-- No blank is followed by a line end. -/
  beforeBreak : ScalarStyle.hasAdjacent (· == ' ') isBreak (ss.flatMap Stretch.text) = false
  /-- There is no tab. -/
  noTab : ∀ t ∈ ss, '\t' ∉ t.text

namespace SingleStretches

variable {t : Stretch} {ss : List Stretch}

lemma tail (h : SingleStretches (t :: ss)) : SingleStretches ss := by
  refine ⟨h.cut.tail, ScalarStyle.hasAdjacent_right (x := t.text) ?_,
    ScalarStyle.hasAdjacent_right (x := t.text) ?_, fun u hu =>
    h.noTab u (List.mem_cons_of_mem _ hu)⟩
  · exact h.afterBreak
  · exact h.beforeBreak

lemma isSpace_word {w : List Char} (h : SingleStretches (.word w :: ss)) :
    ∀ c ∈ w, isSpace c = false := by
  intro c hc
  obtain ⟨hblank, hbreak⟩ := h.cut.head.2 c hc
  have htab : c ≠ '\t' := fun e => h.noTab _ (List.mem_cons_self ..) (e ▸ hc)
  simp [isSpace, isGap, hblank, htab, hbreak]

/-- After blanks and line ends the text goes on with a word, or ends with the apostrophe. -/
lemma startsWord (h : SingleStretches ss) (hword : ss = [] ∨ ∃ w r, ss = .word w :: r)
    (indent : Nat) (first : Bool) (column : Nat) :
    StartsWord (writeSingle indent first column ss ++ [Quote.single.char]) := by
  rcases hword with rfl | ⟨w, r, rfl⟩
  · exact ⟨'\'', [], rfl, by decide⟩
  · rw [writeSingle, List.append_assoc]
    exact startsWord_doubleQuotes h.cut.head.1 h.isSpace_word _

/-- What is written between apostrophes is read as what is left of each stretch. -/
theorem readsBetween_writeSingle (h : SingleStretches ss) {indent : Nat} (hindent : 0 < indent)
    (first : Bool) (column : Nat) :
    ReadsBetween .single (writeSingle indent first column ss)
      ((ss.flatMap Stretch.reread).map .char) := by
  induction ss generalizing first column with
  | nil => exact readsBetween_nil .single
  | cons t ss ih =>
    have hrest := ih h.tail
    rw [List.flatMap_cons, List.map_append]
    cases t with
    | word w =>
      rw [writeSingle]
      exact readsBetween_doubleQuotes h.isSpace_word (hrest _ _)
    | blanks n =>
      have hnext := h.tail.startsWord (h.cut.after_blanks h.beforeBreak)
      rw [writeSingle]
      split
      · -- a blank that is made a line end is read as a blank again
        rename_i hfold
        rw [hfold.1]
        have hfeed : isBreak '\n' = true := by decide
        have hnone : ∀ y ∈ ([] : List Char), isBreak y = true :=
          fun _ h => absurd h List.not_mem_nil
        exact readsBetween_breaks hfeed hnone (continuation_ne_nil hindent)
          (isGap_of_mem_continuation indent) (hrest _ _) (hnext _ _ _)
      · rw [Stretch.reread, List.map_replicate]
        exact readsBetween_blanks n (hrest _ _) (hnext _ _ _)
    | breaks s =>
      have hnext := h.tail.startsWord (h.cut.after_breaks h.afterBreak)
      obtain ⟨b, bs, hw, hb, hbs, hreread⟩ := exists_writeBreaks h.cut.head
      rw [writeSingle, hreread, hw]
      exact readsBetween_breaks hb hbs (continuation_ne_nil hindent)
        (isGap_of_mem_continuation indent) (hrest _ _) (hnext _ _ _)

end SingleStretches

end CssMargin.Yaml
