/-
# Reading what was written as UTF-8

The bytes of a text are read back as that text.  A character of one byte is read at once.  A longer
one is read byte by byte: its first byte says how many bytes follow and in which range the second
one lies, and each of the others adds six bits.  The ranges are just wide enough for the characters
that are written in so many bytes, which is where it matters that surrogates are no characters.
-/
import CssMargin.Text.Utf8
import Mathlib.Tactic.Common
namespace CssMargin.Text

variable {pos : Nat} {r : List UInt8}

/-! ### One byte -/

lemma toNat_ofNat_of_lt {n : Nat} (h : n < 256) : (UInt8.ofNat n).toNat = n := by
  simpa using Nat.mod_eq_of_lt h

lemma decodeUtf8From_ascii {n : Nat} (h : n < 0x80) :
    decodeUtf8From pos none (UInt8.ofNat n :: r) =
      (Char.ofNat n :: ·) <$> decodeUtf8From (pos + 1) none r := by
  rw [decodeUtf8From, toNat_ofNat_of_lt (by omega), if_pos h]

lemma decodeUtf8From_lead {n : Nat} {p : Utf8Inside} (h : ¬ n < 0x80) (h' : n < 256)
    (hp : Utf8Inside.ofLead? (UInt8.ofNat n) pos = some p) :
    decodeUtf8From pos none (UInt8.ofNat n :: r) = decodeUtf8From (pos + 1) (some p) r := by
  rw [decodeUtf8From, toNat_ofNat_of_lt h', if_neg h, hp]

/-- A byte in the range, when others are to come after it. -/
lemma decodeUtf8From_more {p : Utf8Inside} {n : Nat} (hn : p.low ≤ n ∧ n ≤ p.high) (h : n < 256)
    (hp : 1 < p.missing) :
    decodeUtf8From pos (some p) (UInt8.ofNat n :: r) = decodeUtf8From (pos + 1)
      (some ⟨p.lead, p.start, p.bits * 64 + (n - 0x80), p.missing - 1, 0x80, 0xBF⟩) r := by
  rw [decodeUtf8From, toNat_ofNat_of_lt h, if_pos hn]
  dsimp only
  rw [if_neg (by omega)]

/-- A byte in the range, when it is the last one of a character. -/
lemma decodeUtf8From_last {p : Utf8Inside} {n : Nat} (hn : p.low ≤ n ∧ n ≤ p.high) (h : n < 256)
    (hp : p.missing = 1) :
    decodeUtf8From pos (some p) (UInt8.ofNat n :: r) =
      (Char.ofNat (p.bits * 64 + (n - 0x80)) :: ·) <$> decodeUtf8From (pos + 1) none r := by
  rw [decodeUtf8From, toNat_ofNat_of_lt h, if_pos hn]
  dsimp only
  rw [if_pos (by omega)]

/-! ### The first byte of a longer character -/

lemma ofLead?_two {v : Nat} (h : 0x80 ≤ v) (h' : v ≤ 0x7FF) :
    Utf8Inside.ofLead? (UInt8.ofNat (v / 64 % 0x20 + 0xC0)) pos =
      some ⟨UInt8.ofNat (v / 64 % 0x20 + 0xC0), pos, v / 64, 1, 0x80, 0xBF⟩ := by
  have hbits : v / 64 % 0x20 + 0xC0 - 0xC0 = v / 64 := by omega
  rw [Utf8Inside.ofLead?, toNat_ofNat_of_lt (by omega)]
  rw [if_pos (by omega), hbits]

/-- The first byte of three, for a character that is no surrogate. -/
lemma exists_ofLead?_three (pos : Nat) {v : Nat} (h : 0x7FF < v) (h' : v ≤ 0xFFFF)
    (hs : v < 0xD800 ∨ 0xDFFF < v) :
    ∃ p, Utf8Inside.ofLead? (UInt8.ofNat (v / 4096 % 0x10 + 0xE0)) pos = some p ∧
      p.bits = v / 4096 ∧ p.missing = 2 ∧
      p.low ≤ v / 64 % 0x40 + 0x80 ∧ v / 64 % 0x40 + 0x80 ≤ p.high := by
  rw [Utf8Inside.ofLead?, toNat_ofNat_of_lt (by omega)]
  rw [if_neg (by omega)]
  split
  · exact ⟨_, rfl, by dsimp only; omega, rfl, by dsimp only; omega, by dsimp only; omega⟩
  · split
    · -- the range that leaves out the surrogates
      exact ⟨_, rfl, by dsimp only; omega, rfl, by dsimp only; omega, by dsimp only; omega⟩
    · rw [if_pos (by omega)]
      exact ⟨_, rfl, by dsimp only; omega, rfl, by dsimp only; omega, by dsimp only; omega⟩

/-- The first byte of four. -/
lemma exists_ofLead?_four (pos : Nat) {v : Nat} (h : 0xFFFF < v) (h' : v < 0x110000) :
    ∃ p, Utf8Inside.ofLead? (UInt8.ofNat (v / 262144 % 0x08 + 0xF0)) pos = some p ∧
      p.bits = v / 262144 ∧ p.missing = 3 ∧
      p.low ≤ v / 4096 % 0x40 + 0x80 ∧ v / 4096 % 0x40 + 0x80 ≤ p.high := by
  rw [Utf8Inside.ofLead?, toNat_ofNat_of_lt (by omega)]
  rw [if_neg (by omega), if_neg (by omega), if_neg (by omega), if_neg (by omega)]
  split
  · exact ⟨_, rfl, by dsimp only; omega, rfl, by dsimp only; omega, by dsimp only; omega⟩
  · split
    · exact ⟨_, rfl, by dsimp only; omega, rfl, by dsimp only; omega, by dsimp only; omega⟩
    · rw [if_pos (by omega)]
      exact ⟨_, rfl, by dsimp only; omega, rfl, by dsimp only; omega, by dsimp only; omega⟩

/-! ### Characters and texts -/

lemma toNat_not_surrogate (c : Char) :
    c.toNat < 0xD800 ∨ 0xDFFF < c.toNat ∧ c.toNat < 0x110000 := by
  have h := c.valid
  simpa [UInt32.isValidChar, Nat.isValidChar] using h

/-- The bytes of a character are read as that character. -/
lemma decodeUtf8From_utf8EncodeChar (pos : Nat) (c : Char) (r : List UInt8) :
    ∃ pos', decodeUtf8From pos none (String.utf8EncodeChar c ++ r) =
      (c :: ·) <$> decodeUtf8From pos' none r := by
  have hc : Char.ofNat c.toNat = c := Char.ofNat_toNat c
  have hvalid := toNat_not_surrogate c
  rw [String.utf8EncodeChar]
  simp only [Char.toNat_val]
  generalize c.toNat = v at hc hvalid
  -- as many bytes as the number of the character needs, each of the later ones with six bits
  split
  · exact ⟨pos + 1, by rw [List.singleton_append, decodeUtf8From_ascii (by omega), hc]⟩
  · split
    · refine ⟨pos + 2, ?_⟩
      have hv : v / 64 * 64 + (v % 0x40 + 0x80 - 0x80) = v := by omega
      rw [List.cons_append, List.singleton_append,
        decodeUtf8From_lead (by omega) (by omega) (ofLead?_two (by omega) (by omega)),
        decodeUtf8From_last (by dsimp only; omega) (by omega) rfl, hv, hc]
    · split
      · obtain ⟨p, hp, hbits, hmissing, hrange⟩ :=
          exists_ofLead?_three pos (v := v) (by omega) (by omega) (by omega)
        refine ⟨pos + 3, ?_⟩
        have hv : (v / 4096 * 64 + (v / 64 % 0x40 + 0x80 - 0x80)) * 64 +
            (v % 0x40 + 0x80 - 0x80) = v := by omega
        rw [List.cons_append, List.cons_append, List.singleton_append,
          decodeUtf8From_lead (by omega) (by omega) hp,
          decodeUtf8From_more hrange (by omega) (by omega),
          decodeUtf8From_last (by dsimp only; omega) (by omega) (by dsimp only; omega), hbits,
          hv, hc]
      · obtain ⟨p, hp, hbits, hmissing, hrange⟩ :=
          exists_ofLead?_four pos (v := v) (by omega) (by omega)
        refine ⟨pos + 4, ?_⟩
        have hv : ((v / 262144 * 64 + (v / 4096 % 0x40 + 0x80 - 0x80)) * 64 +
            (v / 64 % 0x40 + 0x80 - 0x80)) * 64 + (v % 0x40 + 0x80 - 0x80) = v := by omega
        rw [List.cons_append, List.cons_append, List.cons_append, List.singleton_append,
          decodeUtf8From_lead (by omega) (by omega) hp,
          decodeUtf8From_more hrange (by omega) (by omega),
          decodeUtf8From_more (by dsimp only; omega) (by omega) (by dsimp only; omega),
          decodeUtf8From_last (by dsimp only; omega) (by omega) (by dsimp only; omega), hbits,
          hv, hc]

lemma decodeUtf8From_encodeUtf8 (pos : Nat) (s : List Char) :
    decodeUtf8From pos none (encodeUtf8 s) = .ok s := by
  induction s generalizing pos with
  | nil => rfl
  | cons c s ih =>
    obtain ⟨pos', hc⟩ := decodeUtf8From_utf8EncodeChar pos c (encodeUtf8 s)
    rw [encodeUtf8, List.flatMap_cons, ← encodeUtf8, hc, ih]
    rfl

/-- A text that was written as UTF-8 is read back. -/
@[simp] theorem decodeUtf8_encodeUtf8 (s : List Char) : decodeUtf8 (encodeUtf8 s) = .ok s :=
  decodeUtf8From_encodeUtf8 0 s

end CssMargin.Text
