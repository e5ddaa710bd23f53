/-
# Integers written and read as JSON

An integer that was written is read as the same integer, when what follows it cannot be taken for a
part of the number and it has no more digits than are allowed; the sign is no digit.
-/
import CssMargin.Json.Reader
import CssMargin.Proofs.Text.Numeral
namespace CssMargin.Json

/-- Whether a text cannot carry on a number that ends before it. -/
def EndsNumber (rest : List Char) : Prop :=
  ∀ c, rest.head? = some c → c.isDigit = false ∧ c ≠ '.' ∧ ¬ (c = 'e' ∨ c = 'E')

lemma head?_toDigits_append (n : Nat) (r : List Char) :
    (Nat.toDigits 10 n ++ r).head? = (Nat.toDigits 10 n).head? := by
  cases hds : Nat.toDigits 10 n with
  | nil => exact absurd hds Nat.toDigits_ne_nil
  | cons c ds => rfl

/-- The digits of a number begin with a zero only if there are no others. -/
lemma toDigits_eq_of_head_zero {n : Nat} (h : (Nat.toDigits 10 n).head? = some '0') :
    Nat.toDigits 10 n = ['0'] := by
  induction n using Nat.strongRecOn with
  | ind n ih =>
    by_cases hn : n < 10
    · rw [Nat.toDigits_of_lt_base hn] at h ⊢
      simpa using h
    · -- the first digit is that of the number without its last digit, which would be zero
      have hsplit := Nat.toDigits_of_base_le (b := 10) (n := n) (by decide) (by omega)
      rw [hsplit, head?_toDigits_append] at h
      have hzero : n / 10 = 0 := by
        have hvalue := congrArg Text.decimalValue (ih (n / 10) (by omega) h)
        rw [Text.decimalValue_toDigits] at hvalue
        exact hvalue
      omega

lemma spanDigits_append {ds rest : List Char} (hds : ∀ c ∈ ds, c.isDigit = true)
    (hrest : EndsNumber rest) : spanDigits (ds ++ rest) = (ds, rest) := by
  have hnone : rest.takeWhile Char.isDigit = [] ∧ rest.dropWhile Char.isDigit = rest := by
    cases rest with
    | nil => exact ⟨rfl, rfl⟩
    | cons c r =>
      have hc := (hrest c rfl).1
      simp [hc]
  rw [spanDigits, List.takeWhile_append_of_pos hds, List.dropWhile_append_of_pos hds, hnone.1,
    hnone.2, List.append_nil]

lemma wholePart?_toDigits (n : Nat) {rest : List Char} (hrest : EndsNumber rest) :
    wholePart? (Nat.toDigits 10 n ++ rest) = some (Nat.toDigits 10 n, rest) := by
  have hdigit : ∀ c ∈ Nat.toDigits 10 n, c.isDigit = true := fun c hc =>
    Nat.isDigit_of_mem_toDigits (by decide) (by decide) hc
  cases hds : Nat.toDigits 10 n with
  | nil => exact absurd hds Nat.toDigits_ne_nil
  | cons c ds =>
    by_cases hc : c = '0'
    · -- the reader takes one zero only, and this is all that there is
      have hhead : (Nat.toDigits 10 n).head? = some '0' := by rw [hds, hc]; rfl
      have hzero := toDigits_eq_of_head_zero hhead
      rw [hds] at hzero
      rw [hzero]
      rfl
    · rw [hds] at hdigit
      have hspan := spanDigits_append hdigit hrest
      rw [List.cons_append] at hspan ⊢
      rw [wholePart?]
      · rw [if_pos (hdigit c (List.mem_cons_self ..)), hspan]
      · exact hc

/-- The digits of a number are read as the number, with the sign that stands before them. -/
lemma readNumber_toDigits (negative : Bool) (start : List Char) {n : Nat} {rest : List Char}
    (hrest : EndsNumber rest) (hn : (Nat.toDigits 10 n).length ≤ Text.digitLimit) :
    readNumber negative start (Nat.toDigits 10 n ++ rest) =
      .ok (.int (if negative then -(n : Int) else n), rest) := by
  have hfraction : fractionPart? rest = none := by
    cases rest with
    | nil => rfl
    | cons c r =>
      rw [fractionPart?]
      rintro _ ⟨⟩
      exact (hrest _ rfl).2.1 rfl
  have hexponent : exponentPart? rest = none := by
    cases rest with
    | nil => rfl
    | cons c r =>
      unfold exponentPart?
      exact if_neg (hrest c rfl).2.2
  rw [readNumber, wholePart?_toDigits n hrest]
  simp [hfraction, hexponent, Nat.not_lt.2 hn]

lemma toList_toString_ofNat (n : Nat) : (toString (n : Int)).toList = Nat.toDigits 10 n :=
  Nat.toList_repr

lemma toList_toString_negSucc (n : Nat) :
    (toString (Int.negSucc n)).toList = '-' :: Nat.toDigits 10 (n + 1) := by
  change ("-" ++ Nat.repr (n + 1)).toList = _
  rw [String.toList_append, Nat.toList_repr]
  rfl

/-- The words other than minus infinity begin with letters. -/
lemma head_of_mem_keywords {w : List Char × Json} (hw : w ∈ keywords) :
    w.1 = "-Infinity".toList ∨ ∃ x s, w.1 = x :: s ∧ x.isDigit = false ∧ x ≠ '-' := by
  simp only [keywords, List.mem_cons, List.not_mem_nil, or_false] at hw
  rcases hw with rfl | rfl | rfl | rfl | rfl | rfl
  · exact Or.inr ⟨'n', ['u', 'l', 'l'], rfl, rfl, by decide⟩
  · exact Or.inr ⟨'t', ['r', 'u', 'e'], rfl, rfl, by decide⟩
  · exact Or.inr ⟨'f', ['a', 'l', 's', 'e'], rfl, rfl, by decide⟩
  · exact Or.inr ⟨'N', ['a', 'N'], rfl, rfl, by decide⟩
  · exact Or.inr ⟨'I', ['n', 'f', 'i', 'n', 'i', 't', 'y'], rfl, rfl, by decide⟩
  · exact Or.inl rfl

/-- What starts like a number other than minus infinity is none of the words. -/
lemma keyword?_eq_none {c : Char} {r : List Char}
    (h : c.isDigit = true ∨ c = '-' ∧ r.head? ≠ some 'I') : keyword? (c :: r) = none := by
  have hfind : ∀ w ∈ keywords, w.1.isPrefixOf (c :: r) = false := by
    intro w hw
    rcases head_of_mem_keywords hw with hw | ⟨x, s, hw, hx, hm⟩
    · rw [hw]
      rcases h with h | ⟨rfl, h⟩
      · have hc : c ≠ '-' := by
          rintro rfl
          cases h
        simp [List.isPrefixOf, Ne.symm hc]
      · -- after the sign the word goes on with a letter, and the number with a digit
        cases r with
        | nil => rfl
        | cons y r =>
          have hy : y ≠ 'I' := fun e => h (congrArg some e)
          simp [List.isPrefixOf, Ne.symm hy]
    · have hc : x ≠ c := by
        rintro rfl
        rcases h with h | ⟨rfl, -⟩
        · rw [hx] at h
          cases h
        · exact hm rfl
      simp [hw, List.isPrefixOf, hc]
  rw [keyword?, List.find?_eq_none.2 fun w hw => by rw [hfind w hw]; exact Bool.false_ne_true]
  rfl

/-- An integer that was written is read as it was. -/
theorem readValue_toString (n : Int) {rest : List Char} (hrest : EndsNumber rest)
    (hn : (Nat.toDigits 10 n.natAbs).length ≤ Text.digitLimit) {fuel : Nat} (hfuel : 0 < fuel) :
    readValue fuel ((toString n).toList ++ rest) = .ok (.int n, rest) := by
  obtain ⟨fuel, rfl⟩ : ∃ k, fuel = k + 1 := ⟨fuel - 1, by omega⟩
  have hdigit (m : Nat) : ∀ c ∈ Nat.toDigits 10 m, c.isDigit = true := fun c hc =>
    Nat.isDigit_of_mem_toDigits (by decide) (by decide) hc
  cases n with
  | ofNat m =>
    rw [Int.ofNat_eq_natCast, toList_toString_ofNat]
    have hread := readNumber_toDigits false (n := m) (Nat.toDigits 10 m ++ rest) hrest hn
    cases hds : Nat.toDigits 10 m with
    | nil => exact absurd hds Nat.toDigits_ne_nil
    | cons c ds =>
      have hc := hdigit m c (by rw [hds]; exact List.mem_cons_self ..)
      rw [hds, List.cons_append] at hread
      have hopen : c ≠ '"' ∧ c ≠ '[' ∧ c ≠ '{' ∧ c ≠ '-' := by
        refine ⟨?_, ?_, ?_, ?_⟩ <;> rintro rfl <;> cases hc
      rw [List.cons_append, readValue]
      · rw [keyword?_eq_none (Or.inl hc)]
        dsimp only
        rw [if_neg hopen.2.2.2, hread]
        rfl
      · exact hopen.1
      · exact hopen.2.1
      · exact hopen.2.2.1
  | negSucc m =>
    rw [toList_toString_negSucc]
    have hread := readNumber_toDigits true (n := m + 1) ('-' :: (Nat.toDigits 10 (m + 1) ++ rest))
      hrest hn
    have hhead : (Nat.toDigits 10 (m + 1) ++ rest).head? ≠ some 'I' := by
      intro h
      rw [head?_toDigits_append] at h
      have := hdigit (m + 1) 'I' (List.mem_of_head? h)
      cases this
    rw [List.cons_append, readValue, keyword?_eq_none (Or.inr ⟨rfl, hhead⟩)]
    · dsimp only
      rw [if_pos rfl, hread]
      rfl
    · decide
    · decide
    · decide

end CssMargin.Json
