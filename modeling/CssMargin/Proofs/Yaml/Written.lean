/-
# The characters of a written scalar

Whatever the text, the scalar that is written for it has only characters that may occur in a YAML
text, and no carriage returns, which would be taken for line feeds.  The characters that may not
occur are those for which a text is written between quotation marks, where they become escapes.
-/
import CssMargin.Proofs.Yaml.Scalar
namespace CssMargin.Yaml

/-- Whether a character is kept when a text is saved and read. -/
def IsKept (c : Char) : Prop := isAllowed c = true ∧ c ≠ '\r'

instance (c : Char) : Decidable (IsKept c) :=
  inferInstanceAs (Decidable (isAllowed c = true ∧ c ≠ '\r'))

lemma isKept_of_mem_continuation {indent : Nat} {c : Char} (h : c ∈ continuation indent) :
    IsKept c := by
  rw [List.eq_of_mem_replicate h]
  decide

/-- Without quotes there are only characters of the text besides line ends and indentation. -/
lemma isKept_writePlain {ss : List Stretch} (h : ∀ c ∈ ss.flatMap Stretch.text, IsKept c)
    (indent column : Nat) : ∀ c ∈ writePlain indent column ss, IsKept c := by
  induction ss generalizing column with
  | nil => exact fun c hc => absurd hc List.not_mem_nil
  | cons t ss ih =>
    rw [List.flatMap_cons, List.forall_mem_append] at h
    have hrest (column : Nat) := ih h.2 column
    cases t with
    | word s =>
      rw [writePlain, List.forall_mem_append]
      exact ⟨h.1, hrest _⟩
    | breaks s =>
      rw [writePlain, List.forall_mem_append]
      exact ⟨h.1, hrest _⟩
    | blanks n =>
      rw [writePlain]
      split
      · rw [List.cons_append, List.forall_mem_cons, List.forall_mem_append]
        exact ⟨by decide, fun c hc => isKept_of_mem_continuation hc, hrest _⟩
      · rw [List.forall_mem_append]
        exact ⟨h.1, hrest _⟩

lemma isKept_doubleQuotes {s : List Char} (h : ∀ c ∈ s, IsKept c) :
    ∀ c ∈ doubleQuotes s, IsKept c := by
  intro c hc
  obtain ⟨x, hx, hc⟩ := List.mem_flatMap.1 hc
  split at hc
  · have hc' : c = '\'' := by simpa using hc
    rw [hc']
    decide
  · rw [List.mem_singleton.1 hc]
    exact h x hx

lemma isKept_writeBreaks {s : List Char} (h : ∀ c ∈ s, IsKept c) :
    ∀ c ∈ writeBreaks s, IsKept c := by
  rw [writeBreaks, List.forall_mem_append]
  refine ⟨fun c hc => ?_, h⟩
  split at hc
  · rw [List.mem_singleton.1 hc]
    decide
  · cases hc

/-- So it is between apostrophes. -/
lemma isKept_writeSingle {ss : List Stretch} (h : ∀ c ∈ ss.flatMap Stretch.text, IsKept c)
    (indent : Nat) (first : Bool) (column : Nat) :
    ∀ c ∈ writeSingle indent first column ss, IsKept c := by
  induction ss generalizing first column with
  | nil => exact fun c hc => absurd hc List.not_mem_nil
  | cons t ss ih =>
    rw [List.flatMap_cons, List.forall_mem_append] at h
    have hrest (first : Bool) (column : Nat) := ih h.2 first column
    cases t with
    | word s =>
      rw [writeSingle, List.forall_mem_append]
      exact ⟨isKept_doubleQuotes h.1, hrest _ _⟩
    | breaks s =>
      rw [writeSingle, List.forall_mem_append, List.forall_mem_append]
      exact ⟨⟨isKept_writeBreaks h.1, fun c hc => isKept_of_mem_continuation hc⟩, hrest _ _⟩
    | blanks n =>
      rw [writeSingle]
      split
      · rw [List.cons_append, List.forall_mem_cons, List.forall_mem_append]
        exact ⟨by decide, fun c hc => isKept_of_mem_continuation hc, hrest _ _⟩
      · rw [List.forall_mem_append]
        exact ⟨h.1, hrest _ _⟩

/-! ### Between quotation marks -/

lemma isKept_of_isVerbatim {c : Char} (h : isVerbatim c = true) : IsKept c := by
  have hchar := Text.toNat_not_surrogate c
  simp only [isVerbatim, Bool.and_eq_true, Bool.or_eq_true, decide_eq_true_eq, bne_iff_ne] at h
  refine ⟨?_, ?_⟩
  · simp only [isAllowed, Bool.or_eq_true, Bool.and_eq_true, decide_eq_true_eq, beq_iff_eq]
    omega
  · rintro rfl
    exact absurd h (by decide)

lemma isKept_capitalHex (w n : Nat) : ∀ c ∈ capitalHex w n, IsKept c := by
  intro c hc
  obtain ⟨d, hd, rfl⟩ := List.mem_map.1 hc
  obtain ⟨k, hk, rfl⟩ := Text.mem_hexDigits hd
  have hall : ∀ k < 16, IsKept (Nat.digitChar k).toUpper := by decide
  exact hall k hk

lemma isKept_escape (x : Char) : ∀ c ∈ escape x, IsKept c := by
  have hback : IsKept '\\' := by decide
  unfold escape
  split
  · rename_i e he
    have hletter : IsKept e := by
      unfold escapeLetter? at he
      split at he <;> cases he <;> decide
    simpa using ⟨hback, hletter⟩
  split
  · simpa using ⟨hback, by decide, isKept_capitalHex 2 x.toNat⟩
  split
  · simpa using ⟨hback, by decide, isKept_capitalHex 4 x.toNat⟩
  · simpa using ⟨hback, by decide, isKept_capitalHex 8 x.toNat⟩

lemma isKept_escapeHalf (h : Half) : ∀ c ∈ escapeHalf h, IsKept c := by
  rw [escapeHalf, List.forall_mem_cons, List.forall_mem_cons]
  exact ⟨by decide, by decide, isKept_capitalHex 4 h.position⟩

/-- A point is written with characters that are kept, as it is or by an escape. -/
lemma isKept_verbatimOrEscape (p : Point) :
    (∀ c, verbatimOrEscape p = .inl c → IsKept c) ∧
      ∀ e, verbatimOrEscape p = .inr e → ∀ c ∈ e, IsKept c := by
  cases p with
  | half h =>
    constructor
    · intro c hc
      cases hc
    · rintro e ⟨⟩
      exact isKept_escapeHalf h
  | char x =>
    rw [verbatimOrEscape]
    split
    · rename_i hx
      constructor
      · rintro c ⟨⟩
        exact isKept_of_isVerbatim hx
      · intro e he
        cases he
    · constructor
      · intro c hc
        cases hc
      · rintro e ⟨⟩
        exact isKept_escape x

lemma isKept_foldBefore (indent : Nat) (r : List Point) : ∀ c ∈ foldBefore indent r, IsKept c := by
  rw [foldBefore, List.cons_append, List.cons_append, List.forall_mem_cons, List.forall_mem_cons,
    List.forall_mem_append]
  refine ⟨by decide, by decide, fun c hc => isKept_of_mem_continuation hc, fun c hc => ?_⟩
  split at hc
  · rw [List.mem_singleton.1 hc]
    decide
  · cases hc

/-- Between quotation marks every text may stand. -/
lemma isKept_writeDouble (s : List Point) (indent : Nat) (first inWord : Bool) (column : Nat) :
    ∀ c ∈ writeDouble indent first inWord column s, IsKept c := by
  induction s generalizing first inWord column with
  | nil => exact fun c hc => absurd hc List.not_mem_nil
  | cons p r ih =>
    obtain ⟨hverbatim, hescape⟩ := isKept_verbatimOrEscape p
    rw [writeDouble]
    dsimp only
    cases hp : verbatimOrEscape p with
    | inl c =>
      dsimp only
      have hself := hverbatim c hp
      split
      · rw [List.forall_mem_append, List.forall_mem_cons]
        exact ⟨isKept_foldBefore _ _, hself, ih _ _ _⟩
      · rw [List.forall_mem_cons]
        exact ⟨hself, ih _ _ _⟩
    | inr e =>
      dsimp only
      have hself := hescape e hp
      split
      · rw [List.forall_mem_append, List.forall_mem_append]
        exact ⟨⟨hself, isKept_foldBefore _ _⟩, ih _ _ _⟩
      · rw [List.forall_mem_append]
        exact ⟨hself, ih _ _ _⟩

/-! ### In any style -/

/-- A text without special characters is kept. -/
lemma isKept_of_isSpecial {s : List Char} (h : ∀ c ∈ s, ScalarStyle.isSpecial c = false) :
    ∀ c ∈ (Stretch.ofText s).flatMap Stretch.text, IsKept c := by
  rw [(Stretch.ofText_spec s).2]
  intro c hc
  obtain ⟨-, hreturn, -, hallowed⟩ := of_isSpecial_eq_false (h c hc)
  exact ⟨hallowed, hreturn⟩

lemma isKept_quoted (s : List Point) (indent column : Nat) :
    ∀ c ∈ '"' :: writeDouble indent true false column s ++ ['"'], IsKept c := by
  rw [List.cons_append, List.forall_mem_cons, List.forall_mem_append]
  exact ⟨by decide, isKept_writeDouble s _ _ _ _, List.all_iff_forall_prop.1 (by decide)⟩

lemma isKept_writeIn (indent column : Nat) (s : List Char) :
    ∀ c ∈ writeIn (ScalarStyle.ofText s) indent column s, IsKept c := by
  cases hstyle : ScalarStyle.ofText s with
  | plain =>
    obtain ⟨c, r, rfl⟩ := ScalarStyle.eq_cons_of_ofText_eq_plain hstyle
    obtain ⟨-, -, -, -, hspecial⟩ :=
      ScalarStyle.of_allowsPlain (ScalarStyle.of_ofText_eq_plain hstyle).2
    exact isKept_writePlain (isKept_of_isSpecial hspecial) indent column
  | single =>
    obtain ⟨-, -, hspecial⟩ :=
      ScalarStyle.of_allowsSingle (ScalarStyle.of_ofText_eq_single hstyle)
    rw [writeIn, List.cons_append, List.forall_mem_cons, List.forall_mem_append]
    exact ⟨by decide, isKept_writeSingle (isKept_of_isSpecial hspecial) _ _ _,
      List.all_iff_forall_prop.1 (by decide)⟩
  | double => exact isKept_quoted _ _ _

/-- **Written characters.**  A scalar that is written for a text may stand in a YAML file. -/
theorem isKept_writeScalar (indent column : Nat) (t : Text) :
    ∀ c ∈ writeScalar indent column t, IsKept c := by
  rw [writeScalar]
  cases t.tail with
  | nil => exact isKept_writeIn _ _ _
  | cons x r => exact isKept_quoted _ _ _

end CssMargin.Yaml
