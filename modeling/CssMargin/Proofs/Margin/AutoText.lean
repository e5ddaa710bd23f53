/-
# The texts that say `auto`

A value says `auto` exactly when it is made up of blanks, of the four letters of the word, each of
them small or capital, and of blanks again.  `AutoText` says this without trimming anything and
without a table of letters.  So a letter from outside ASCII is never taken for one of the four, a
blank between two letters matters, and a character that only looks like a blank does so too.

What is said of the test passes on to the substitution, which replaces these values and no others;
as the zero is none of them, to substitute again changes nothing.
-/
import CssMargin.Proofs.Shorthand.Expansion
import CssMargin.Proofs.Text.Trim
namespace CssMargin

/-! ### The word -/

/-- Whether characters are the letters of `auto` in their order, each of them small or capital. -/
def SpellsAuto (s : List Char) : Prop :=
  ∃ a u t o, s = [a, u, t, o] ∧ (a = 'a' ∨ a = 'A') ∧ (u = 'u' ∨ u = 'U') ∧ (t = 't' ∨ t = 'T') ∧
    (o = 'o' ∨ o = 'O')

/-- Whether a text is the word `auto` between blanks. -/
def AutoText (t : Text) : Prop :=
  ∃ p w q, t = String.ofList (p ++ w ++ q) ∧ (∀ c ∈ p, c ∈ Text.blanks) ∧ SpellsAuto w ∧
    ∀ c ∈ q, c ∈ Text.blanks

/-- Whether two points are the same but for the case of a letter of ASCII. -/
def Point.SameButCase : Point → Point → Prop
  | .char c, .char d => d = c ∨ d = c.toLower ∨ d = c.toUpper
  | p, q => q = p

/-- Whether two texts are the same but for the case of letters of ASCII. -/
def SameButCase (t t' : Text) : Prop := List.Forall₂ Point.SameButCase t.points t'.points

lemma spellsAuto_iff {s : List Char} : SpellsAuto s ↔ Text.lowerAscii s = "auto".toList := by
  have ha (c : Char) : c.toLower = 'a' ↔ c = 'a' ∨ c = 'A' := Text.toLower_eq_iff (by decide)
  have hu (c : Char) : c.toLower = 'u' ↔ c = 'u' ∨ c = 'U' := Text.toLower_eq_iff (by decide)
  have ht (c : Char) : c.toLower = 't' ↔ c = 't' ∨ c = 'T' := Text.toLower_eq_iff (by decide)
  have ho (c : Char) : c.toLower = 'o' ↔ c = 'o' ∨ c = 'O' := Text.toLower_eq_iff (by decide)
  have hword : "auto".toList = ['a', 'u', 't', 'o'] := by decide
  rw [hword, Text.lowerAscii]
  constructor
  · rintro ⟨a, u, t, o, rfl, h⟩
    simpa [ha, hu, ht, ho] using h
  · intro h
    have hlength : s.length = 4 := by simpa using congrArg List.length h
    obtain ⟨a, u, t, o, rfl⟩ := List.length_eq_four.1 hlength
    exact ⟨a, u, t, o, rfl, by simpa [ha, hu, ht, ho] using h⟩

/-- None of the letters is blank. -/
lemma SpellsAuto.isBlank_eq_false {s : List Char} (h : SpellsAuto s) :
    ∀ c ∈ s, Text.isBlank c = false := by
  obtain ⟨a, u, t, o, rfl, ha, hu, ht, ho⟩ := h
  intro c hc
  simp only [List.mem_cons, List.not_mem_nil, or_false] at hc
  rcases hc with rfl | rfl | rfl | rfl
  · rcases ha with rfl | rfl <;> decide
  · rcases hu with rfl | rfl <;> decide
  · rcases ht with rfl | rfl <;> decide
  · rcases ho with rfl | rfl <;> decide

/-! ### The test -/

/-- What is left after trimming is the word exactly when the text is the word between blanks. -/
lemma isAuto_iff_autoText {t : Text} : isAuto t = true ↔ AutoText t := by
  rw [isAuto, Text.isWord_iff]
  constructor
  · rintro ⟨s, rfl, h⟩
    obtain ⟨p, q, heq, hp, hq⟩ := Text.exists_eq_append_trim s.toList
    refine ⟨p, _, q, ?_, fun c hc => Text.isBlank_iff_mem_blanks.1 (hp c hc), spellsAuto_iff.2 h,
      fun c hc => Text.isBlank_iff_mem_blanks.1 (hq c hc)⟩
    rw [← heq, String.ofList_toList]
  · rintro ⟨p, w, q, rfl, hp, hw, hq⟩
    refine ⟨_, rfl, ?_⟩
    rw [String.toList_ofList,
      Text.trim_append_right fun c hc => Text.isBlank_iff_mem_blanks.2 (hq c hc),
      Text.trim_append_left fun c hc => Text.isBlank_iff_mem_blanks.2 (hp c hc),
      Text.trim_eq_self hw.isBlank_eq_false]
    exact spellsAuto_iff.1 hw

/-- Blanks at either end make no difference. -/
lemma isAuto_append {p q : List Char} (hp : ∀ c ∈ p, c ∈ Text.blanks)
    (hq : ∀ c ∈ q, c ∈ Text.blanks) (t : Text) :
    isAuto ((String.ofList p : Text) ++ t ++ (String.ofList q : Text)) = isAuto t := by
  cases ht : t.isWhole with
  | false => simp [isAuto, Text.isWord, ht]
  | true =>
    rw [Text.eq_coe_of_isWhole ht, Text.coe_append_coe, Text.coe_append_coe, isAuto, isAuto,
      Text.isWord_coe, Text.isWord_coe, String.toList_append, String.toList_append,
      String.toList_ofList, String.toList_ofList,
      Text.trim_append_right fun c hc => Text.isBlank_iff_mem_blanks.2 (hq c hc),
      Text.trim_append_left fun c hc => Text.isBlank_iff_mem_blanks.2 (hp c hc)]

/-- Points that differ from characters in the case of letters are characters. -/
lemma exists_lowerAscii_eq_of_sameButCase {s : List Char} {ps : List Point}
    (h : List.Forall₂ Point.SameButCase (s.map .char) ps) :
    ∃ r : List Char, ps = r.map .char ∧ Text.lowerAscii r = Text.lowerAscii s := by
  induction s generalizing ps with
  | nil =>
    cases h
    exact ⟨[], rfl, rfl⟩
  | cons c s ih =>
    rw [List.map_cons] at h
    cases h with
    | @cons _ q _ _ hcq hrest =>
      obtain ⟨r, rfl, hr⟩ := ih hrest
      cases q with
      | half x => cases hcq
      | char d =>
        refine ⟨d :: r, rfl, ?_⟩
        simp only [Text.lowerAscii, List.map_cons] at hr ⊢
        rw [hr]
        rcases hcq with rfl | rfl | rfl
        · rfl
        · rw [Text.toLower_toLower]
        · rw [Text.toLower_toUpper]

/-- A half stays a half. -/
lemma half_mem_of_sameButCase {ps qs : List Point} (h : List.Forall₂ Point.SameButCase ps qs)
    {x : Half} (hx : .half x ∈ ps) : .half x ∈ qs := by
  induction h with
  | nil => cases hx
  | cons hpq _ ih =>
    rcases List.mem_cons.1 hx with rfl | hrest
    · cases hpq
      exact List.mem_cons_self ..
    · exact List.mem_cons_of_mem _ (ih hrest)

/-- The case of the letters makes no difference. -/
lemma isAuto_eq_of_sameButCase {t t' : Text} (h : SameButCase t t') : isAuto t' = isAuto t := by
  cases ht : t.isWhole with
  | true =>
    rw [Text.eq_coe_of_isWhole ht] at h ⊢
    rw [SameButCase, Text.points_coe] at h
    obtain ⟨r, hr, hlower⟩ := exists_lowerAscii_eq_of_sameButCase h
    have ht' : t' = String.ofList r := by
      rw [← Text.ofPoints_points t', hr, Text.ofPoints_chars]
    rw [ht', isAuto, isAuto, Text.isWord_coe, Text.isWord_coe, String.toList_ofList,
      ← Text.trim_lowerAscii, ← Text.trim_lowerAscii, hlower]
  | false =>
    -- neither text is whole
    obtain ⟨x, hx⟩ := Text.exists_half_mem_points ht
    have ht' := Text.isWhole_eq_false_of_mem (half_mem_of_sameButCase h hx)
    rw [isAuto, isAuto, Text.isWord, Text.isWord, ht, ht']
    rfl

/-! ### The substitution -/

section Substitution

variable {α : Type} (text : α → Text) (a : α)

lemma substituteAuto_eq_zero_iff : substituteAuto text a = .zero ↔ AutoText (text a) := by
  rw [← isAuto_iff_autoText, substituteAuto]
  split
  · rename_i h
    simp [h]
  · rename_i h
    simp [h]

lemma substituteAuto_eq_given_iff : substituteAuto text a = .given a ↔ ¬ AutoText (text a) := by
  rw [← substituteAuto_eq_zero_iff text, substituteAuto]
  split <;> simp

/-- What comes out of a substitution does not say `auto`. -/
lemma not_autoText_text_substituteAuto : ¬ AutoText ((substituteAuto text a).text text) := by
  by_cases h : AutoText (text a)
  · rw [(substituteAuto_eq_zero_iff text a).2 h, ← isAuto_iff_autoText, Bool.not_eq_true]
    exact isAuto_zero
  · rw [(substituteAuto_eq_given_iff text a).2 h]
    exact h

end Substitution

/-- **What says `auto`.**  A text says `auto` exactly when it consists of blanks, the four letters
of the word in either case, and blanks; this is also what it means that the text, trimmed and made
small by the rules for all scripts, is the word.  Blanks added at the ends and another case of
letters of ASCII make no difference.  Of a value that says `auto` the substitution makes the zero,
and any other value it hands on as it is; so it hands on what it has made, whatever the value. -/
theorem says_auto_exactly :
    (∀ t, isAuto t = true ↔ AutoText t) ∧
    (∀ t : Text, isAuto t = true ↔
      t.isWhole = true ∧ Text.lower (Text.trim t.head.toList) = "auto".toList) ∧
    (∀ (t : Text) (p q : List Char), (∀ c ∈ p, c ∈ Text.blanks) → (∀ c ∈ q, c ∈ Text.blanks) →
      isAuto ((String.ofList p : Text) ++ t ++ (String.ofList q : Text)) = isAuto t) ∧
    (∀ t t', SameButCase t t' → isAuto t' = isAuto t) ∧
    ∀ (α : Type) (text : α → Text) (a : α),
      (substituteAuto text a = .zero ↔ AutoText (text a)) ∧
      (substituteAuto text a = .given a ↔ ¬ AutoText (text a)) ∧
      substituteAuto (Resolved.text text) (substituteAuto text a) =
        .given (substituteAuto text a) :=
  ⟨fun _ => isAuto_iff_autoText, fun _ => isAuto_iff, fun t _ _ hp hq => isAuto_append hp hq t,
    fun _ _ h => isAuto_eq_of_sameButCase h, fun _ text a => ⟨substituteAuto_eq_zero_iff text a,
      substituteAuto_eq_given_iff text a,
      (substituteAuto_eq_given_iff _ _).2 (not_autoText_text_substituteAuto text a)⟩⟩

/-- An ideographic space is blank, and a zero-width space is not. -/
example : isAuto "\u3000AuTo\n" = true ∧ isAuto "\u200Bauto" = false := by decide

end CssMargin
