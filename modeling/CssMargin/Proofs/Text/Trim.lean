/-
# What trimming leaves

A text is cut into the blanks in front, the blanks behind and what trimming leaves between them.
More blanks at either end make no difference to what is left, and neither does it matter whether a
text is trimmed before or after its letters are made small, since no letter of ASCII is blank.
-/
import CssMargin.Text.Blank
import Mathlib.Data.List.DropRight
import Mathlib.Tactic.Common
namespace CssMargin.Text

/-! ### Blanks -/

/-- The blank characters, one by one. -/
def blanks : List Char :=
  ['\x09', '\x0A', '\x0B', '\x0C', '\x0D', '\x1C', '\x1D', '\x1E', '\x1F', '\x20', '\u0085',
    '\u00A0', '\u1680', '\u2000', '\u2001', '\u2002', '\u2003', '\u2004', '\u2005', '\u2006',
    '\u2007', '\u2008', '\u2009', '\u200A', '\u2028', '\u2029', '\u202F', '\u205F', '\u3000']

lemma isBlank_iff_mem_blanks {c : Char} : isBlank c = true ↔ c ∈ blanks := by
  have hnumber : c ∈ blanks ↔ c.toNat ∈ blanks.map Char.toNat := by
    constructor
    · exact fun h => List.mem_map_of_mem h
    · intro h
      obtain ⟨x, hx, hxc⟩ := List.mem_map.1 h
      rwa [← Char.toNat_inj.1 hxc]
  have hnumbers : blanks.map Char.toNat =
      [0x09, 0x0A, 0x0B, 0x0C, 0x0D, 0x1C, 0x1D, 0x1E, 0x1F, 0x20, 0x85, 0xA0, 0x1680, 0x2000,
        0x2001, 0x2002, 0x2003, 0x2004, 0x2005, 0x2006, 0x2007, 0x2008, 0x2009, 0x200A, 0x2028,
        0x2029, 0x202F, 0x205F, 0x3000] := by decide
  rw [hnumber, hnumbers]
  simp only [isBlank, Bool.or_eq_true, Bool.and_eq_true, decide_eq_true_eq, beq_iff_eq,
    List.mem_cons, List.not_mem_nil, or_false]
  omega

/-! ### The parts of a text -/

/-- Blanks in front make no difference. -/
lemma trim_append_left {p : List Char} (hp : ∀ c ∈ p, isBlank c = true) (s : List Char) :
    trim (p ++ s) = trim s := by
  rw [trim, List.dropWhile_append_of_pos hp, trim]

lemma trimRight_append {q : List Char} (hq : ∀ c ∈ q, isBlank c = true) (s : List Char) :
    trimRight (s ++ q) = trimRight s := by
  have hreverse : ∀ c ∈ q.reverse, isBlank c = true := fun c hc => hq c (List.mem_reverse.1 hc)
  rw [trimRight, List.reverse_append, List.dropWhile_append_of_pos hreverse, trimRight]

/-- Blanks behind make no difference. -/
lemma trim_append_right {q : List Char} (hq : ∀ c ∈ q, isBlank c = true) (s : List Char) :
    trim (s ++ q) = trim s := by
  rw [trim, List.dropWhile_append, trim]
  split
  · -- all of the text is blank, and what is behind it as well
    rename_i hs
    rw [List.isEmpty_iff.1 hs, List.dropWhile_eq_nil_iff.2 hq]
  · exact trimRight_append hq _

/-- A text without blanks stays as it is. -/
lemma trim_eq_self {s : List Char} (hs : ∀ c ∈ s, isBlank c = false) : trim s = s := by
  have hdrop (t : List Char) (ht : ∀ c ∈ t, isBlank c = false) : t.dropWhile isBlank = t := by
    cases t with
    | nil => rfl
    | cons c r => exact List.dropWhile_cons_of_neg (by simp [ht c (List.mem_cons_self ..)])
  have hreverse : ∀ c ∈ s.reverse, isBlank c = false := fun c hc => hs c (List.mem_reverse.1 hc)
  rw [trim, hdrop s hs, trimRight, hdrop _ hreverse, List.reverse_reverse]

/-- Nothing but blanks is taken away. -/
lemma exists_eq_append_trim (s : List Char) : ∃ p q, s = p ++ trim s ++ q ∧
    (∀ c ∈ p, isBlank c = true) ∧ ∀ c ∈ q, isBlank c = true := by
  refine ⟨s.takeWhile isBlank, ((s.dropWhile isBlank).reverse.takeWhile isBlank).reverse, ?_,
    fun c hc => List.mem_takeWhile_imp hc,
    fun c hc => List.mem_takeWhile_imp (List.mem_reverse.1 hc)⟩
  have hright : trim s ++ ((s.dropWhile isBlank).reverse.takeWhile isBlank).reverse =
      s.dropWhile isBlank := by
    rw [trim, trimRight, ← List.reverse_append, List.takeWhile_append_dropWhile,
      List.reverse_reverse]
  rw [List.append_assoc, hright, List.takeWhile_append_dropWhile]

/-! ### Letters -/

lemma toNat_toLower (c : Char) :
    c.toLower.toNat = if 65 ≤ c.toNat ∧ c.toNat ≤ 90 then c.toNat + 32 else c.toNat := by
  have hcapital : ('A'.val ≤ c.val ∧ c.val ≤ 'Z'.val) ↔ (65 ≤ c.toNat ∧ c.toNat ≤ 90) := Iff.rfl
  unfold Char.toLower
  split
  · rename_i h
    rw [if_pos (hcapital.1 h)]
    change (c.val + ('a'.val - 'A'.val)).toNat = _
    have := hcapital.1 h
    rw [UInt32.toNat_add]
    change (c.toNat + 32) % _ = _
    omega
  · rename_i h
    rw [if_neg (mt hcapital.2 h)]

lemma toNat_toUpper (c : Char) :
    c.toUpper.toNat = if 97 ≤ c.toNat ∧ c.toNat ≤ 122 then c.toNat - 32 else c.toNat := by
  have hsmall : ('a'.val ≤ c.val ∧ c.val ≤ 'z'.val) ↔ (97 ≤ c.toNat ∧ c.toNat ≤ 122) := Iff.rfl
  unfold Char.toUpper
  split
  · rename_i h
    rw [if_pos (hsmall.1 h)]
    have := hsmall.1 h
    change (c.val + ('A'.val - 'a'.val)).toNat = _
    rw [UInt32.toNat_add]
    change (c.toNat + 4294967264) % _ = _
    omega
  · rename_i h
    rw [if_neg (mt hsmall.2 h)]

lemma toLower_toLower (c : Char) : c.toLower.toLower = c.toLower := by
  rw [← Char.toNat_inj, toNat_toLower, toNat_toLower]
  split_ifs <;> omega

lemma toLower_toUpper (c : Char) : c.toUpper.toLower = c.toLower := by
  rw [← Char.toNat_inj, toNat_toLower, toNat_toUpper, toNat_toLower]
  split_ifs <;> omega

/-- A small letter is that of itself and of its capital. -/
lemma toLower_eq_iff {c x : Char} (hx : 97 ≤ x.toNat ∧ x.toNat ≤ 122) :
    c.toLower = x ↔ c = x ∨ c = x.toUpper := by
  rw [← Char.toNat_inj, ← Char.toNat_inj, ← Char.toNat_inj, toNat_toLower, toNat_toUpper, if_pos hx]
  split_ifs <;> omega

lemma isBlank_toLower (c : Char) : isBlank c.toLower = isBlank c := by
  by_cases h : 65 ≤ c.toNat ∧ c.toNat ≤ 90
  · -- neither a capital nor a small letter is blank
    have hnot (x : Char) (hx : 65 ≤ x.toNat ∧ x.toNat ≤ 122) : isBlank x = false := by
      rw [← Bool.not_eq_true, isBlank]
      simp only [Bool.or_eq_true, Bool.and_eq_true, decide_eq_true_eq, beq_iff_eq]
      omega
    have hsmall : 65 ≤ c.toLower.toNat ∧ c.toLower.toNat ≤ 122 := by
      rw [toNat_toLower, if_pos h]
      omega
    rw [hnot c (by omega), hnot _ hsmall]
  · have hc : c.toLower = c := by rw [← Char.toNat_inj, toNat_toLower, if_neg h]
    rw [hc]

/-- It does not matter when letters are made small. -/
lemma trim_lowerAscii (s : List Char) : trim (lowerAscii s) = lowerAscii (trim s) := by
  have hblank : isBlank ∘ Char.toLower = isBlank := funext isBlank_toLower
  rw [trim, trimRight, lowerAscii, List.dropWhile_map, hblank, ← List.map_reverse,
    List.dropWhile_map, hblank, ← List.map_reverse]
  rfl

end CssMargin.Text
