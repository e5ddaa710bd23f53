/-
# Texts between quotation marks

Whatever is written between quotation marks is read as it was: every character either stands for
itself or is an escape that is read as the character, and the line ends that keep a line short stand
for nothing.  Half of a surrogate pair is always an escape.  A blank that begins a line is an escape
as well, since otherwise it would be dropped together with the indentation.
-/
import CssMargin.Proofs.Text.Numeral
import CssMargin.Proofs.Text.Utf8
import CssMargin.Proofs.Yaml.SingleQuoted
namespace CssMargin.Yaml

/-! ### Escapes -/

/-- A short escape is read as the character that it was made for. -/
lemma unescape?_escapeLetter? {c e : Char} (h : escapeLetter? c = some e) :
    unescape? e = some c := by
  unfold escapeLetter? at h
  split at h <;> cases h <;> rfl

/-- A number is read as the point at this position. -/
lemma readEscape_number {l : Char} {w : Nat} (hl : unescape? l = none)
    (hw : escapeWidth? l = some w) {n : Nat} (hn : n < 16 ^ w) (hlast : n ≤ 0x10FFFF) {c : Cursor}
    {r : List Char} (hrest : c.rest = l :: capitalHex w n ++ r) (fuel : Nat) :
    ∃ c', readEscape fuel c = .ok ([Point.ofPosition n], c') ∧ c'.rest = r := by
  have hlen : (capitalHex w n).length = w := by
    rw [capitalHex, List.length_map, Text.length_hexDigits]
  have hstep : c.step.rest = capitalHex w n ++ r := Cursor.rest_step_cons hrest
  have htake : (capitalHex w n ++ r).take w = capitalHex w n := List.take_left' hlen
  have hvalue : Text.hexValue? (capitalHex w n) = some n := Text.hexValue?_capital_hexDigits hn
  have hafter : (c.step.advance w).rest = r := by
    have := Cursor.rest_advance_append hstep
    rwa [hlen] at this
  refine ⟨c.step.advance w, ?_, hafter⟩
  rw [List.cons_append] at hrest
  rw [readEscape, hrest]
  simp [hl, hw, htake, hlen, hvalue, Nat.not_lt.2 hlast]

/-- Whether characters are an escape that is read as a point. -/
def IsEscapeOf (p : Point) (t : List Char) : Prop :=
  ∃ e, t = '\\' :: e ∧ ∀ (c : Cursor) (r : List Char) (fuel : Nat), c.rest = e ++ r →
    ∃ c', readEscape fuel c = .ok ([p], c') ∧ c'.rest = r

lemma isEscapeOf_escape (x : Char) : IsEscapeOf (.char x) (escape x) := by
  have hchar := Text.toNat_not_surrogate x
  have hnumber {l : Char} {w : Nat} (hl : unescape? l = none) (hw : escapeWidth? l = some w)
      (hx : x.toNat < 16 ^ w) : IsEscapeOf (.char x) ('\\' :: l :: capitalHex w x.toNat) := by
    refine ⟨_, rfl, fun c r fuel hrest => ?_⟩
    have hread := readEscape_number hl hw hx (by omega) hrest fuel
    rwa [Text.ofPosition_toNat] at hread
  unfold escape
  cases hx : escapeLetter? x with
  | some e =>
    refine ⟨[e], rfl, fun c r fuel hrest => ⟨c.step, ?_, Cursor.rest_step_cons hrest⟩⟩
    rw [List.singleton_append] at hrest
    rw [readEscape, hrest]
    simp [unescape?_escapeLetter? hx]
  | none =>
    dsimp only
    split
    · exact hnumber rfl rfl (by omega)
    split
    · exact hnumber rfl rfl (by omega)
    · exact hnumber rfl rfl (by omega)

/-- Half of a surrogate pair is read back from its escape. -/
lemma isEscapeOf_escapeHalf (h : Half) : IsEscapeOf (.half h) (escapeHalf h) := by
  have hlt := h.isLt
  refine ⟨_, rfl, fun c r fuel hrest => ?_⟩
  have hposition : h.position < 16 ^ 4 := by
    rw [Half.position]
    omega
  have hread := readEscape_number (l := 'u') rfl rfl hposition (by rw [Half.position]; omega) hrest
    fuel
  rwa [Text.ofPosition_position] at hread

lemma isEscapeOf_of_inr {p : Point} {e : List Char} (h : verbatimOrEscape p = .inr e) :
    IsEscapeOf p e := by
  cases p with
  | char c =>
    rw [verbatimOrEscape] at h
    split at h
    · cases h
    · cases h
      exact isEscapeOf_escape c
  | half h' =>
    cases h
    exact isEscapeOf_escapeHalf h'

section Escape

variable {p : Point} {e : List Char}

lemma IsEscapeOf.readsBetween_append (he : IsEscapeOf p e) {t : List Char} {xs : List Point}
    (h : ReadsBetween .double t xs) : ReadsBetween .double (e ++ t) (p :: xs) := by
  obtain ⟨e, rfl, hread⟩ := he
  exact readsBetween_escape hread h

lemma IsEscapeOf.startsWord_append (he : IsEscapeOf p e) (r : List Char) :
    StartsWord (e ++ r) := by
  obtain ⟨e, rfl, -⟩ := he
  exact ⟨'\\', _, rfl, by decide⟩

end Escape

/-- A blank after a backslash is a blank. -/
lemma readsBetween_escapedBlank {t : List Char} {xs : List Point} (h : ReadsBetween .double t xs) :
    ReadsBetween .double ('\\' :: ' ' :: t) (.char ' ' :: xs) := by
  refine readsBetween_escape (e := [' ']) (fun c r fuel hrest => ?_) h
  refine ⟨c.step, ?_, Cursor.rest_step_cons hrest⟩
  rw [readEscape, hrest]
  rfl

/-! ### Characters that stand for themselves -/

lemma eq_char_of_inl {p : Point} {c : Char} (h : verbatimOrEscape p = .inl c) :
    p = .char c ∧ isVerbatim c = true := by
  cases p with
  | char x =>
    rw [verbatimOrEscape] at h
    split at h
    · rename_i hx
      cases h
      exact ⟨rfl, hx⟩
    · cases h
  | half h' => cases h

lemma verbatimOrEscape_blank : verbatimOrEscape (.char ' ') = .inl ' ' := by decide

lemma isSpace_of_isVerbatim {c : Char} (h : isVerbatim c = true) (hc : c ≠ ' ') :
    isSpace c = false := by
  by_contra hs
  simp only [isSpace, isGap, isBreak, Bool.not_eq_false, Bool.or_eq_true, beq_iff_eq] at hs
  rcases hs with (rfl | rfl) | ((rfl | rfl) | rfl) | rfl
  · exact hc rfl
  all_goals exact absurd h (by decide)

lemma readsBetween_isVerbatim {c : Char} {t : List Char} {xs : List Point}
    (hc : isVerbatim c = true) (h : ReadsBetween .double t xs)
    (ht : KeepsBlanks (t ++ [Quote.double.char])) :
    ReadsBetween .double (c :: t) (.char c :: xs) := by
  by_cases hblank : c = ' '
  · rw [hblank]
    exact readsBetween_blank h ht
  · have hquote : c ≠ Quote.double.char := by
      rintro rfl
      exact absurd hc (by decide)
    have hback : ¬ (Quote.double = Quote.double ∧ c = '\\') := by
      rintro ⟨-, rfl⟩
      exact absurd hc (by decide)
    exact readsBetween_char (isSpace_of_isVerbatim hc hblank) hquote hback h

/-! ### The whole text -/

variable {indent : Nat}

/-- What is written of a text begins with a blank only if the text does. -/
lemma startsWord_writeDouble {s : List Point} (hs : s.head? ≠ some (.char ' '))
    (first inWord : Bool) (column : Nat) :
    StartsWord (writeDouble indent first inWord column s ++ [Quote.double.char]) := by
  cases s with
  | nil => exact ⟨'"', [], rfl, by decide⟩
  | cons p r =>
    rw [writeDouble]
    dsimp only
    split
    · rename_i c hinl
      obtain ⟨rfl, hv⟩ := eq_char_of_inl hinl
      have hc : c ≠ ' ' := fun e => hs (congrArg some (congrArg Point.char e))
      split
      · exact ⟨'\\', _, rfl, by decide⟩
      · exact ⟨c, _, rfl, isSpace_of_isVerbatim hv hc⟩
    · rename_i e hinr
      have he := isEscapeOf_of_inr hinr
      split
      · rw [List.append_assoc, List.append_assoc]
        exact he.startsWord_append _
      · rw [List.append_assoc]
        exact he.startsWord_append _

lemma keepsBlanks_writeDouble (s : List Point) (first inWord : Bool) (column : Nat) :
    KeepsBlanks (writeDouble indent first inWord column s ++ [Quote.double.char]) := by
  induction s generalizing first inWord column with
  | nil => exact (startsWord_writeDouble (by simp) _ _ _).keepsBlanks
  | cons p r ih =>
    by_cases hp : p = .char ' '
    · subst hp
      rw [writeDouble, verbatimOrEscape_blank]
      dsimp only
      split
      · exact StartsWord.keepsBlanks ⟨'\\', _, rfl, by decide⟩
      · exact (ih _ _ _).blank
    · exact (startsWord_writeDouble (by simpa using hp) _ _ _).keepsBlanks

/-- A line end in front of a text stands for nothing; a blank that begins the text is written as an
escape. -/
lemma readsBetween_foldBefore (hindent : 0 < indent) {r xs : List Point} {t : List Char}
    (ht : ReadsBetween .double (if r.head? = some (.char ' ') then '\\' :: t else t) xs)
    (hstart : r.head? ≠ some (.char ' ') → StartsWord (t ++ [Quote.double.char])) :
    ReadsBetween .double (foldBefore indent r ++ t) xs := by
  rw [foldBefore]
  split
  · rename_i hr
    rw [if_pos hr] at ht
    have hfold := readsBetween_fold (continuation_ne_nil hindent) (isGap_of_mem_continuation indent)
      ht ⟨'\\', _, rfl, by decide⟩
    simpa using hfold
  · rename_i hr
    rw [if_neg hr] at ht
    have hfold := readsBetween_fold (continuation_ne_nil hindent) (isGap_of_mem_continuation indent)
      ht (hstart hr)
    simpa using hfold

/-- What is written between quotation marks is read as the text, and so it is after a backslash if
the text begins with a blank and the line is not full. -/
lemma readsBetween_writeDouble_and (hindent : 0 < indent) (hwidth : indent < bestWidth)
    (s : List Point) (first inWord : Bool) (column : Nat) :
    ReadsBetween .double (writeDouble indent first inWord column s) s ∧
      (s.head? = some (.char ' ') → column ≤ bestWidth →
        ReadsBetween .double ('\\' :: writeDouble indent first inWord column s) s) := by
  induction s generalizing first inWord column with
  | nil => exact ⟨readsBetween_nil .double, fun h => by cases h⟩
  | cons p r ih =>
    have hrest (first inWord : Bool) (column : Nat) := (ih first inWord column).1
    constructor
    · rw [writeDouble]
      dsimp only
      split
      · -- the character stands for itself, and the line may end in front of it
        rename_i c hinl
        obtain ⟨rfl, hv⟩ := eq_char_of_inl hinl
        have hself (first inWord : Bool) (column : Nat) := readsBetween_isVerbatim hv
          (hrest first inWord column) (keepsBlanks_writeDouble r first inWord column)
        split
        · refine readsBetween_foldBefore hindent ?_ fun hc => ?_
          · split
            · rename_i hc
              have hc' : c = ' ' := Point.char.inj (Option.some.inj hc)
              rw [hc']
              exact readsBetween_escapedBlank (hrest _ _ _)
            · exact hself _ _ _
          · exact ⟨c, _, rfl, isSpace_of_isVerbatim hv
              fun e => hc (congrArg some (congrArg Point.char e))⟩
        · exact hself _ _ _
      · -- the point is an escape, and the line may end behind it
        rename_i e hinr
        have he := isEscapeOf_of_inr hinr
        split
        · rw [List.append_assoc]
          refine he.readsBetween_append (readsBetween_foldBefore hindent ?_ fun hr =>
            startsWord_writeDouble hr _ _ _)
          split
          · rename_i hr
            have hcolumn : columnAfterFold indent r ≤ bestWidth := by
              rw [columnAfterFold, if_pos hr]
              exact hwidth
            exact (ih _ _ _).2 hr hcolumn
          · exact hrest _ _ _
        · exact he.readsBetween_append (hrest _ _ _)
    · -- the backslash of the line end makes the blank an escape
      intro hc hcolumn
      have hp : p = .char ' ' := Option.some.inj hc
      subst hp
      have hroom : ¬ bestWidth < column := by omega
      rw [writeDouble, verbatimOrEscape_blank]
      dsimp only
      rw [if_neg fun h => hroom h.2.1]
      exact readsBetween_escapedBlank (hrest _ _ _)

/-- What is written between quotation marks is read as the text. -/
theorem readsBetween_writeDouble (hindent : 0 < indent) (hwidth : indent < bestWidth)
    (s : List Point) (first inWord : Bool) (column : Nat) :
    ReadsBetween .double (writeDouble indent first inWord column s) s :=
  (readsBetween_writeDouble_and hindent hwidth s first inWord column).1

end CssMargin.Yaml
