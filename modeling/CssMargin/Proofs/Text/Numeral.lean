/-
# Numbers written and read

Hexadecimal digits filled up to a width stand for the number that they were made of, if it fits
into the width, with small and with capital letters alike; and the decimal digits of a number stand
for it.
-/
import CssMargin.Text.Literal
import CssMargin.Text.Numeral
import Mathlib.Algebra.Group.Nat.Defs
import Mathlib.Tactic.Common
namespace CssMargin.Text

/-! ### To the base sixteen -/

lemma hexDigit?_digitChar {n : Nat} (h : n < 16) : hexDigit? (Nat.digitChar n) = some n := by
  have hall : ∀ n < 16, hexDigit? (Nat.digitChar n) = some n := by decide
  exact hall n h

lemma hexDigit?_toUpper_digitChar {n : Nat} (h : n < 16) :
    hexDigit? (Nat.digitChar n).toUpper = some n := by
  have hall : ∀ n < 16, hexDigit? (Nat.digitChar n).toUpper = some n := by decide
  exact hall n h

lemma hexDigit?_lt {c : Char} {n : Nat} (h : hexDigit? c = some n) : n < 16 := by
  unfold hexDigit? at h
  split at h
  · rename_i hdigit
    cases h
    rw [Char.isDigit, Bool.and_eq_true, decide_eq_true_eq, decide_eq_true_eq] at hdigit
    have hle : c.toNat ≤ '9'.toNat := UInt32.le_iff_toNat_le.1 hdigit.2
    have hnine : '9'.toNat = '0'.toNat + 9 := rfl
    omega
  · split at h
    · rename_i hsmall
      cases h
      have hle : c.toNat ≤ 'f'.toNat := UInt32.le_iff_toNat_le.1 hsmall.2
      have hf : 'f'.toNat = 'a'.toNat + 5 := rfl
      omega
    · split at h
      · rename_i hcapital
        cases h
        have hle : c.toNat ≤ 'F'.toNat := UInt32.le_iff_toNat_le.1 hcapital.2
        have hF : 'F'.toNat = 'A'.toNat + 5 := rfl
        omega
      · cases h

/-- Digits stand for a number that their count bounds. -/
lemma hexValue?_lt {ds : List Char} {n : Nat} (h : hexValue? ds = some n) : n < 16 ^ ds.length := by
  -- with a number in front of the digits
  have hfold (ds : List Char) (m n : Nat)
      (h : ds.foldlM (fun n d => (hexDigit? d).map (16 * n + ·)) m = some n) :
      n < (m + 1) * 16 ^ ds.length := by
    induction ds generalizing m with
    | nil =>
      cases h
      simp
    | cons d ds ih =>
      rw [List.foldlM_cons, Option.bind_eq_bind, Option.bind_eq_some_iff] at h
      obtain ⟨k, hk, h⟩ := h
      obtain ⟨j, hj, rfl⟩ := Option.map_eq_some_iff.1 hk
      have hj16 := hexDigit?_lt hj
      have hlt := ih _ h
      have hle : (16 * m + j + 1) * 16 ^ ds.length ≤ (m + 1) * 16 * 16 ^ ds.length :=
        Nat.mul_le_mul_right _ (by omega)
      rw [List.length_cons, Nat.pow_succ, Nat.mul_comm (16 ^ ds.length), ← Nat.mul_assoc]
      omega
  simpa using hfold ds 0 n h

/-- One more digit at the end makes sixteen times the number and the digit. -/
lemma hexValue?_concat {ds : List Char} {d : Char} {n k : Nat} (hds : hexValue? ds = some n)
    (hd : hexDigit? d = some k) : hexValue? (ds ++ [d]) = some (16 * n + k) := by
  rw [hexValue?] at hds ⊢
  rw [List.foldlM_append, hds]
  simp [hd]

/-- What is done to the digits does not matter as long as each keeps its value. -/
lemma hexValue?_map_hexDigits {f : Char → Char}
    (hf : ∀ n < 16, hexDigit? (f (Nat.digitChar n)) = some n) {w n : Nat} (h : n < 16 ^ w) :
    hexValue? ((hexDigits w n).map f) = some n := by
  induction w generalizing n with
  | zero =>
    have hn : n = 0 := by simpa using h
    rw [hn]
    rfl
  | succ w ih =>
    have hdiv : n / 16 < 16 ^ w := by
      rw [Nat.div_lt_iff_lt_mul (by decide), ← Nat.pow_succ]
      exact h
    have hmod : n % 16 < 16 := Nat.mod_lt n (by decide)
    rw [hexDigits, List.map_append, List.map_singleton, hexValue?_concat (ih hdiv) (hf _ hmod)]
    congr 1
    omega

theorem hexValue?_hexDigits {w n : Nat} (h : n < 16 ^ w) : hexValue? (hexDigits w n) = some n := by
  simpa using hexValue?_map_hexDigits (f := id) (fun _ => hexDigit?_digitChar) h

/-- Capital digits stand for the same number. -/
theorem hexValue?_capital_hexDigits {w n : Nat} (h : n < 16 ^ w) :
    hexValue? ((hexDigits w n).map Char.toUpper) = some n :=
  hexValue?_map_hexDigits (fun _ => hexDigit?_toUpper_digitChar) h

/-- The digits are digits or small letters. -/
lemma mem_hexDigits {w n : Nat} {c : Char} (h : c ∈ hexDigits w n) :
    ∃ k < 16, c = Nat.digitChar k := by
  induction w generalizing n with
  | zero => cases h
  | succ w ih =>
    rw [hexDigits, List.mem_append, List.mem_singleton] at h
    rcases h with h | rfl
    · exact ih h
    · exact ⟨n % 16, Nat.mod_lt n (by decide), rfl⟩

/-! ### To the base ten -/

/-- A number below one that is not too long is not too long. -/
lemma isLongInteger_of_le {m n : Nat} (h : m ≤ n) (hn : isLongInteger n = false) :
    isLongInteger m = false := by
  have hpos : 0 < digitLimit := by decide
  have hiff (k : Nat) : isLongInteger k = false ↔ k < 10 ^ digitLimit := by
    rw [isLongInteger, decide_eq_false_iff_not, Nat.not_lt, Int.natAbs_natCast,
      Nat.length_toDigits_le_iff (by decide) hpos]
  rw [hiff] at hn ⊢
  exact Nat.lt_of_le_of_lt h hn

/-- The decimal digits of a number stand for the number. -/
@[simp] theorem decimalValue_toDigits (n : Nat) : decimalValue (Nat.toDigits 10 n) = n := by
  have h := Nat.ofDigitChars_ten_toDigits (n := n)
  rw [Nat.ofDigitChars_eq_foldl] at h
  exact h

end CssMargin.Text
