/-
# What a text is read as after it was written

A text is written in one of three styles.  Without quotes and between quotation marks it is read as
it was.  Between apostrophes the next-line control is read as a line feed: `reread` says what the
text becomes, and it stays as it was exactly when it has no such control.
-/
import CssMargin.Proofs.Yaml.DoubleQuoted
import CssMargin.Proofs.Yaml.Plain
namespace CssMargin.Yaml

/-- What a text is read as after it was written as a scalar. -/
def reread (s : List Char) : List Char :=
  match ScalarStyle.ofText s with
  | .single => (Stretch.ofText s).flatMap Stretch.reread
  | .plain | .double => s

/-- What any text is read as: with halves it stands between quotation marks. -/
def rereadText (t : Text) : Text :=
  match t.tail with
  | [] => String.ofList (reread t.head.toList)
  | _ => t

lemma rereadText_coe (s : String) : rereadText s = String.ofList (reread s.toList) := rfl

/-- Whether a text is written without quotes. -/
def isBare (t : Text) : Bool := t.isWhole && ScalarStyle.ofText t.head.toList == .plain

/-! ### Characters that need no escape -/

lemma of_isSpecial_eq_false {c : Char} (h : ScalarStyle.isSpecial c = false) :
    c ≠ '\t' ∧ c ≠ '\r' ∧ c ≠ '\uFEFF' ∧ isAllowed c = true := by
  refine ⟨?_, ?_, ?_, ?_⟩
  · rintro rfl
    exact absurd h (by decide)
  · rintro rfl
    exact absurd h (by decide)
  · rintro rfl
    exact absurd h (by decide)
  · simp only [ScalarStyle.isSpecial, Bool.not_eq_false', Bool.or_eq_true, Bool.and_eq_true,
      decide_eq_true_eq, beq_iff_eq, bne_iff_ne] at h
    simp only [isAllowed, Bool.or_eq_true, Bool.and_eq_true, decide_eq_true_eq, beq_iff_eq]
    omega

namespace ScalarStyle

lemma of_ofText_eq_plain {s : List Char} (h : ofText s = .plain) :
    Kind.ofText s = .text ∧ allowsPlain s = true := by
  unfold ofText at h
  split at h
  · assumption
  · split at h <;> cases h

lemma of_ofText_eq_single {s : List Char} (h : ofText s = .single) : allowsSingle s = true := by
  unfold ofText at h
  split at h
  · cases h
  · split at h
    · assumption
    · cases h

lemma of_ofText_eq_double {s : List Char} (h : ofText s = .double) : allowsSingle s = false := by
  unfold ofText at h
  split at h
  · cases h
  · split at h
    · cases h
    · rename_i hnot
      simpa using hnot

/-- An empty text has no value and is not written without quotes. -/
lemma eq_cons_of_ofText_eq_plain {s : List Char} (h : ofText s = .plain) : ∃ c r, s = c :: r := by
  refine List.exists_cons_of_ne_nil ?_
  rintro rfl
  exact absurd (of_ofText_eq_plain h).1 (by decide +kernel)

section Plain

variable {c : Char} {r : List Char}

/-- What makes up a text that can be written without quotes. -/
lemma of_allowsPlain (h : allowsPlain (c :: r) = true) :
    hasLeadingIndicator (c :: r) = false ∧ hasInnerIndicator c r = false ∧
      hasOuterSpace (c :: r) = false ∧ (∀ x ∈ c :: r, isBreak x = false) ∧
      ∀ x ∈ c :: r, isSpecial x = false := by
  simp only [allowsPlain, Bool.not_eq_true', Bool.or_eq_false_iff] at h
  obtain ⟨⟨⟨⟨⟨-, hleading⟩, hinner⟩, houter⟩, hbreak⟩, hspecial⟩ := h
  simp only [List.any_eq_false, Bool.not_eq_true] at hbreak hspecial
  exact ⟨hleading, hinner, houter, hbreak, hspecial⟩

/-- No colon of such a text ends a word, not even one at the beginning. -/
lemma hasAdjacent_colon (h : allowsPlain (c :: r) = true) :
    hasAdjacent (· == ':') isSpace (c :: r) = false := by
  obtain ⟨hleading, hinner, -⟩ := of_allowsPlain h
  simp only [hasLeadingIndicator, Bool.or_eq_false_iff] at hleading
  cases r with
  | nil => rfl
  | cons d r =>
    rw [hasAdjacent, (of_hasInnerIndicator hinner).1, Bool.or_false]
    by_contra hc
    simp only [Bool.not_eq_false, Bool.and_eq_true, beq_iff_eq] at hc
    obtain ⟨rfl, hd⟩ := hc
    have hlead := hleading.2
    simp [startsWith, hd] at hlead

/-- Such a text begins neither with a blank nor with a comment. -/
lemma head_of_allowsPlain (h : allowsPlain (c :: r) = true) : c ≠ ' ' ∧ c ≠ '#' := by
  obtain ⟨hleading, -, houter, -⟩ := of_allowsPlain h
  simp only [hasLeadingIndicator, Bool.or_eq_false_iff] at hleading
  simp only [hasOuterSpace, Bool.or_eq_false_iff] at houter
  constructor
  · rintro rfl
    exact absurd houter.1 (by simp)
  · rintro rfl
    exact absurd hleading.1 (by decide)

/-- Such a text ends neither with a blank nor with a colon. -/
lemma getLast?_of_allowsPlain (h : allowsPlain (c :: r) = true) {x : Char}
    (hx : (c :: r).getLast? = some x) : x ≠ ' ' ∧ x ≠ ':' := by
  obtain ⟨hleading, hinner, houter, -⟩ := of_allowsPlain h
  simp only [hasLeadingIndicator, Bool.or_eq_false_iff] at hleading
  simp only [hasOuterSpace, Bool.or_eq_false_iff] at houter
  have hlast := houter.2
  rw [hx] at hlast
  constructor
  · rintro rfl
    exact absurd hlast (by simp)
  · rintro rfl
    cases r with
    | nil =>
      -- the colon is all of the text, and then it is one at the beginning
      cases hx
      exact absurd hleading.2 (by decide)
    | cons d r => exact (of_hasInnerIndicator hinner).2.1 hx

/-- What can be written without quotes is made up of words with blanks between them. -/
lemma plainText_ofText (h : allowsPlain (c :: r) = true) : PlainText (Stretch.ofText (c :: r)) := by
  obtain ⟨hcut, htext⟩ := Stretch.ofText_spec (c :: r)
  obtain ⟨-, hinner, -, hbreak, hspecial⟩ := of_allowsPlain h
  have hnil : Stretch.ofText (c :: r) ≠ [] := by
    intro hnil
    rw [hnil] at htext
    cases htext
  refine ⟨hcut, hnil, ?_, ?_, ?_, ?_, ?_⟩
  · rw [htext]
    intro x hx
    obtain ⟨htab, -, hmark, -⟩ := of_isSpecial_eq_false (hspecial x hx)
    exact ⟨htab, hbreak x hx, hmark⟩
  · rw [htext]
    exact hasAdjacent_colon h
  · rw [htext]
    exact (of_hasInnerIndicator hinner).2.2
  · rw [htext]
    rintro x ⟨⟩
    exact head_of_allowsPlain h
  · rw [htext]
    exact fun x hx => getLast?_of_allowsPlain h hx

end Plain

/-- What makes up a text that may be written between apostrophes. -/
lemma of_allowsSingle {s : List Char} (h : allowsSingle s = true) :
    hasAdjacent isBreak (· == ' ') s = false ∧ hasAdjacent (· == ' ') isBreak s = false ∧
      ∀ x ∈ s, isSpecial x = false := by
  simp only [allowsSingle, Bool.not_eq_true', Bool.or_eq_false_iff] at h
  obtain ⟨⟨hafter, hbefore⟩, hspecial⟩ := h
  simp only [List.any_eq_false, Bool.not_eq_true] at hspecial
  exact ⟨hafter, hbefore, hspecial⟩

lemma singleStretches_ofText {s : List Char} (h : allowsSingle s = true) :
    SingleStretches (Stretch.ofText s) := by
  obtain ⟨hcut, htext⟩ := Stretch.ofText_spec s
  obtain ⟨hafter, hbefore, hspecial⟩ := of_allowsSingle h
  refine ⟨hcut, by rw [htext]; exact hafter, by rw [htext]; exact hbefore, fun t ht htab => ?_⟩
  have hmem : '\t' ∈ s := by
    rw [← htext]
    exact List.mem_flatMap.2 ⟨t, ht, htab⟩
  exact (of_isSpecial_eq_false (hspecial _ hmem)).1 rfl

end ScalarStyle

/-! ### Lines between apostrophes -/

lemma unifiedBreak_of_ne {c : Char} (h : c ≠ '\u0085') : unifiedBreak c = c := if_neg h

lemma unifiedBreak_ne (c : Char) : unifiedBreak c ≠ '\u0085' := by
  unfold unifiedBreak
  split
  · decide
  · assumption

/-- A stretch without the next-line control stays as it is. -/
lemma reread_stretch_eq_self {t : Stretch} (ht : t.Proper) (h : '\u0085' ∉ t.text) :
    t.reread = t.text := by
  cases t with
  | word s => rfl
  | blanks n => rfl
  | breaks s =>
    obtain ⟨c, s, rfl⟩ := List.exists_cons_of_ne_nil ht.1
    have hsame : ∀ r : List Char, (∀ x ∈ r, x ∈ c :: s) → r.map unifiedBreak = r := by
      intro r hr
      have hid : ∀ x ∈ r, unifiedBreak x = x := fun x hx =>
        unifiedBreak_of_ne fun e => h (e ▸ hr x hx)
      rw [List.map_congr_left hid, List.map_id']
    have hc : unifiedBreak c = c :=
      unifiedBreak_of_ne fun e => h (e ▸ List.mem_cons_self ..)
    -- one line feed more is written in front of a first line feed, and folding takes it away
    by_cases hfeed : c = '\n'
    · subst hfeed
      have hall := hsame ('\n' :: s) fun x hx => hx
      have hw : writeBreaks ('\n' :: s) = '\n' :: '\n' :: s := rfl
      rw [Stretch.reread, hw]
      dsimp only
      rw [hall, hc, foldBreaks, if_pos rfl]
      rfl
    · have hrest := hsame s fun x hx => List.mem_cons_of_mem _ hx
      have hw : writeBreaks (c :: s) = c :: s := by
        rw [writeBreaks, List.head?_cons, if_neg fun e => hfeed (Option.some.inj e)]
        rfl
      rw [Stretch.reread, hw]
      dsimp only
      rw [hrest, hc, foldBreaks, if_neg hfeed]
      rfl

/-- What a stretch becomes has no next-line control. -/
lemma nextLine_not_mem_reread {t : Stretch} (ht : t.Proper) : '\u0085' ∉ t.reread := by
  cases t with
  | word s =>
    intro h
    exact absurd (ht.2 _ h).2 (by decide)
  | blanks n =>
    intro h
    exact absurd (List.eq_of_mem_replicate h) (by decide)
  | breaks s =>
    have hmap (r : List Char) : '\u0085' ∉ r.map unifiedBreak := by
      intro h
      obtain ⟨x, -, hx⟩ := List.mem_map.1 h
      exact unifiedBreak_ne x hx
    rw [Stretch.reread]
    split
    · exact List.not_mem_nil
    · rename_i b bs _
      unfold foldBreaks
      split
      · split
        · decide
        · exact hmap bs
      · intro h
        rcases List.mem_cons.1 h with h | h
        · exact unifiedBreak_ne b h.symm
        · exact hmap bs h

/-! ### What is kept -/

/-- The next-line control is lost between apostrophes and nowhere else. -/
theorem reread_eq_self_iff (s : List Char) :
    reread s = s ↔ ('\u0085' ∈ s → ScalarStyle.allowsSingle s = false) := by
  obtain ⟨hcut, htext⟩ := Stretch.ofText_spec s
  unfold reread
  cases hstyle : ScalarStyle.ofText s with
  | plain =>
    refine ⟨fun _ hnel => ?_, fun _ => rfl⟩
    -- a text without quotes has no line ends at all
    obtain ⟨c, r, rfl⟩ := ScalarStyle.eq_cons_of_ofText_eq_plain hstyle
    obtain ⟨-, -, -, hbreak, -⟩ :=
      ScalarStyle.of_allowsPlain (ScalarStyle.of_ofText_eq_plain hstyle).2
    exact absurd (hbreak _ hnel) (by decide)
  | double => exact ⟨fun _ _ => ScalarStyle.of_ofText_eq_double hstyle, fun _ => rfl⟩
  | single =>
    dsimp only
    rw [ScalarStyle.of_ofText_eq_single hstyle]
    constructor
    · intro h hnel
      rw [← h] at hnel
      obtain ⟨t, ht, hmem⟩ := List.mem_flatMap.1 hnel
      exact absurd hmem (nextLine_not_mem_reread (hcut.proper t ht))
    · intro h
      have hnel : '\u0085' ∉ s := fun hnel => absurd (h hnel) (by decide)
      have hsame : ∀ t ∈ Stretch.ofText s, t.reread = t.text := fun t ht =>
        reread_stretch_eq_self (hcut.proper t ht) fun hmem => hnel (by
          rw [← htext]
          exact List.mem_flatMap.2 ⟨t, ht, hmem⟩)
      rw [List.flatMap_congr hsame, htext]

end CssMargin.Yaml
