/-
# JSON strings written and read

A text that was written in quotes is read back as it was, whether or not the characters outside
ASCII were escaped.  A character above the first plane is written as the two halves of a pair; the
reader puts them together again, and it takes no other escape for the first half, since no character
has a number among those of the halves.  For this reason a half that is part of the text must not be
completed by what follows it: the text is `Unpaired`.
-/
import CssMargin.Json.Reader
import CssMargin.Json.Writer
import CssMargin.Proofs.Chain
import CssMargin.Proofs.Text.Numeral
import CssMargin.Proofs.Text.Utf8
import Mathlib.Data.List.Chain
namespace CssMargin.Json

/-! ### One escape -/

lemma drop_hexDigits (w n : Nat) (r : List Char) : (Text.hexDigits w n ++ r).drop w = r :=
  List.drop_left' (Text.length_hexDigits w n)

lemma take_hexDigits (w n : Nat) (r : List Char) :
    (Text.hexDigits w n ++ r).take w = Text.hexDigits w n :=
  List.take_left' (Text.length_hexDigits w n)

/-- A number that is no first half of a pair is read as the character at that position. -/
lemma readUnicode_of_not_half {n : Nat} {r : List Char} (hn : n < 0x10000)
    (hhalf : n < 0xD800 ∨ 0xDC00 ≤ n) (hr : r ≠ []) :
    readUnicode (Text.hexDigits 4 n ++ r) = .ok (Point.ofPosition n, r) := by
  have hvalue : Text.hexValue? (Text.hexDigits 4 n) = some n := Text.hexValue?_hexDigits hn
  rw [readUnicode]
  dsimp only
  rw [drop_hexDigits, if_neg hr, take_hexDigits, hvalue]
  dsimp only
  rw [if_neg (by omega)]

/-- Two halves are read as one character. -/
lemma readUnicode_pair {k l : Nat} {r : List Char} (hk : k < 0x400) (hl : l < 0x400)
    (hr : r ≠ []) :
    readUnicode (Text.hexDigits 4 (0xD800 + k) ++ (unicodeEscape (0xDC00 + l) ++ r)) =
      .ok (.char (Char.ofNat (0x10000 + k * 0x400 + l)), r) := by
  have hhigh : Text.hexValue? (Text.hexDigits 4 (0xD800 + k)) = some (0xD800 + k) :=
    Text.hexValue?_hexDigits (by omega)
  have hlow : Text.hexValue? (Text.hexDigits 4 (0xDC00 + l)) = some (0xDC00 + l) :=
    Text.hexValue?_hexDigits (by omega)
  have hrest : (unicodeEscape (0xDC00 + l) ++ r).drop 6 = r :=
    List.drop_left' (by simp [unicodeEscape])
  rw [readUnicode]
  dsimp only
  rw [drop_hexDigits, if_neg (by simp [unicodeEscape]), take_hexDigits, hhigh]
  dsimp only
  -- the number is that of a first half, so that the escape behind it is read as well
  rw [hrest, if_pos ⟨by omega, by omega, hr, rfl⟩]
  have htake : ((unicodeEscape (0xDC00 + l) ++ r).drop 2).take 4 = Text.hexDigits 4 (0xDC00 + l) :=
    take_hexDigits 4 _ r
  rw [htake, hlow]
  dsimp only
  rw [if_pos (by omega)]
  have hplace : 0x10000 + (0xD800 + k - 0xD800) * 0x400 + (0xDC00 + l - 0xDC00) =
      0x10000 + k * 0x400 + l := by omega
  have hdrop : ((unicodeEscape (0xDC00 + l) ++ r).drop 2).drop 4 = r := drop_hexDigits 4 _ r
  rw [hplace, hdrop]

/-- Whether a text does not begin with the escape of a second half. -/
def NoSecondHalf (r : List Char) : Prop :=
  r.take 2 = ['\\', 'u'] →
    ∃ low, Text.hexValue? ((r.drop 2).take 4) = some low ∧ ¬ (0xDC00 ≤ low ∧ low < 0xE000)

/-- A first half that nothing completes is kept. -/
lemma readUnicode_first {n : Nat} {r : List Char} (hn : n < 0x10000) (hr : r ≠ [])
    (hnext : NoSecondHalf r) :
    readUnicode (Text.hexDigits 4 n ++ r) = .ok (Point.ofPosition n, r) := by
  have hvalue : Text.hexValue? (Text.hexDigits 4 n) = some n := Text.hexValue?_hexDigits hn
  rw [readUnicode]
  dsimp only
  rw [drop_hexDigits, if_neg hr, take_hexDigits, hvalue]
  dsimp only
  split
  · rename_i hcall
    obtain ⟨low, hlow, hnone⟩ := hnext hcall.2.2.2
    rw [hlow]
    dsimp only
    rw [if_neg hnone]
  · rfl

/-! ### One character -/

/-- The ways in which a character is written. -/
inductive WrittenAs (ascii : Bool) (c : Char) : List Char → Prop
  | letter {e : Char} (he : escaped? e = some c) (hvisible : 0x20 ≤ e.toNat ∧ e.toNat < 0x7F) :
      WrittenAs ascii c ['\\', e]
  | number (hn : c.toNat < 0x10000) : WrittenAs ascii c (unicodeEscape c.toNat)
  | self (hq : c ≠ '"') (hb : c ≠ '\\') (hc : 0x20 ≤ c.toNat)
      (hascii : ascii = false ∨ c.toNat < 0x7F) : WrittenAs ascii c [c]
  | pair (hn : 0x10000 ≤ c.toNat) :
      WrittenAs ascii c (unicodeEscape (0xD800 + (c.toNat - 0x10000) / 0x400) ++
        unicodeEscape (0xDC00 + (c.toNat - 0x10000) % 0x400))

lemma written_writeChar (ascii : Bool) (c : Char) : WrittenAs ascii c (writeChar ascii c) := by
  have hletter {e x : Char} {t : List Char} (he : escaped? e = some x)
      (hvisible : 0x20 ≤ e.toNat ∧ e.toNat < 0x7F) (hother : c ≠ x → WrittenAs ascii c t) :
      WrittenAs ascii c (if c = x then ['\\', e] else t) := by
    by_cases hc : c = x
    · rw [if_pos hc]
      exact .letter (he.trans (congrArg some hc.symm)) hvisible
    · rw [if_neg hc]
      exact hother hc
  rw [writeChar]
  -- first the characters that have a letter of their own
  refine hletter rfl (by decide) fun hq => hletter rfl (by decide) fun hb => ?_
  refine hletter rfl (by decide) fun _ => hletter rfl (by decide) fun _ => ?_
  refine hletter rfl (by decide) fun _ => hletter rfl (by decide) fun _ => ?_
  refine hletter rfl (by decide) fun _ => ?_
  by_cases hctl : c.toNat < 0x20
  · rw [if_pos hctl]
    exact .number (by omega)
  rw [if_neg hctl]
  by_cases hascii : ascii = false ∨ c.toNat < 0x7F
  · rw [if_pos hascii]
    exact .self hq hb (by omega) hascii
  rw [if_neg hascii]
  by_cases hn : c.toNat < 0x10000
  · rw [if_pos hn]
    exact .number hn
  · rw [if_neg hn]
    exact .pair (by omega)

section Step

variable {start r r' : List Char} {fuel : Nat} {xs : List Point}

lemma readString_nil : readString start fuel [] = .error (.malformed .unterminated start) := by
  cases fuel <;> rfl

/-- What is read to its end is not empty. -/
lemma ne_nil_of_readString (h : readString start fuel r = .ok (xs, r')) : r ≠ [] := by
  rintro rfl
  rw [readString_nil] at h
  cases h

/-- A letter after a backslash is read as what it stands for. -/
lemma readString_escape {e x : Char} (he : escaped? e = some x)
    (h : readString start fuel r = .ok (xs, r')) :
    readString start (fuel + 1) ('\\' :: e :: r) = .ok (.char x :: xs, r') := by
  have hu : e ≠ 'u' := by
    rintro rfl
    cases he
  simp [readString, he, h]

/-- Digits after `\u` are read as the point that they stand for. -/
lemma readString_unicode {s : List Char} {x : Point} (hx : readUnicode s = .ok (x, r))
    (h : readString start fuel r = .ok (xs, r')) :
    readString start (fuel + 1) ('\\' :: 'u' :: s) = .ok (x :: xs, r') := by
  simp [readString, hx, h]

/-- Other characters stand for themselves. -/
lemma readString_char {c : Char} (hq : c ≠ '"') (hb : c ≠ '\\') (hc : 0x1F < c.toNat)
    (h : readString start fuel r = .ok (xs, r')) :
    readString start (fuel + 1) (c :: r) = .ok (.char c :: xs, r') := by
  have hc' : ¬ c.toNat ≤ 0x1F := by omega
  simp [readString, hq, hb, hc', h]

/-- A character that was written is read first. -/
lemma readString_writeChar (ascii : Bool) (c : Char)
    (h : readString start fuel r = .ok (xs, r')) :
    readString start (fuel + 1) (writeChar ascii c ++ r) = .ok (.char c :: xs, r') := by
  have hr := ne_nil_of_readString h
  have hplace := Text.toNat_not_surrogate c
  have hwritten := written_writeChar ascii c
  generalize writeChar ascii c = t at hwritten ⊢
  cases hwritten with
  | letter he _ => exact readString_escape he h
  | number hn =>
    have hread := readUnicode_of_not_half (r := r) hn (by omega) hr
    rw [Text.ofPosition_toNat] at hread
    exact readString_unicode hread h
  | self hq hb hc _ => exact readString_char hq hb (by omega) h
  | pair hn =>
    have hread := readUnicode_pair (k := (c.toNat - 0x10000) / 0x400)
      (l := (c.toNat - 0x10000) % 0x400) (r := r) (by omega) (by omega) hr
    have hc : 0x10000 + (c.toNat - 0x10000) / 0x400 * 0x400 + (c.toNat - 0x10000) % 0x400 =
        c.toNat := by omega
    rw [hc, Char.ofNat_toNat] at hread
    rw [List.append_assoc]
    exact readString_unicode hread h

/-- A half that was written is read first, if it is not completed by what is written behind it. -/
lemma readString_half {x : Half} (hhalf : 0xDC00 ≤ x.position ∨ NoSecondHalf r)
    (h : readString start fuel r = .ok (xs, r')) :
    readString start (fuel + 1) (x.escape ++ r) = .ok (.half x :: xs, r') := by
  have hr := ne_nil_of_readString h
  have hplace : x.position < 0xE000 := by
    have hlt := x.isLt
    rw [Half.position]
    omega
  have hread : readUnicode (Text.hexDigits 4 x.position ++ r) =
      .ok (Point.ofPosition x.position, r) := by
    rcases hhalf with hsecond | hnext
    · exact readUnicode_of_not_half (by omega) (.inr hsecond) hr
    · exact readUnicode_first (by omega) hr hnext
  rw [Text.ofPosition_position] at hread
  exact readString_unicode hread h

end Step

/-! ### Whole strings -/

/-- Whether a point is a first half of a surrogate pair and the next one a second half. -/
def ArePair (p q : Point) : Prop :=
  ∃ x y : Half, p = .half x ∧ q = .half y ∧ x.position < 0xDC00 ∧ 0xDC00 ≤ y.position

/-- Whether no two neighbours among points make up a surrogate pair. -/
def Unpaired (ps : List Point) : Prop := ps.IsChain fun p q => ¬ ArePair p q

/-- Characters make up no pairs. -/
lemma unpaired_chars_append (s : List Char) {ps : List Point} (h : Unpaired ps) :
    Unpaired (s.map .char ++ ps) := by
  induction s with
  | nil => exact h
  | cons c r ih =>
    refine List.isChain_cons.2 ⟨?_, ih⟩
    rintro p - ⟨x, y, hx, -⟩
    cases hx

lemma unpaired_coe (s : String) : Unpaired (Text.points s) := by
  have h := unpaired_chars_append s.toList .nil
  rwa [List.append_nil, ← Text.points_coe] at h

/-- Without first halves there are no pairs. -/
lemma unpaired_of_second {ps : List Point}
    (h : ∀ x : Half, .half x ∈ ps → 0xDC00 ≤ x.position) : Unpaired ps := by
  induction ps with
  | nil => exact .nil
  | cons p r ih =>
    refine List.isChain_cons.2 ⟨?_, ih fun x hx => h x (List.mem_cons_of_mem _ hx)⟩
    rintro q - ⟨x, y, rfl, -, hfirst, -⟩
    have hsecond := h x (List.mem_cons_self ..)
    omega

/-- What is written for points begins with the escape of a second half only if they do. -/
lemma noSecondHalf_flatMap_writePoint (ascii : Bool) {ps : List Point} (r : List Char)
    (h : ∀ y : Half, ps.head? = some (.half y) → y.position < 0xDC00) :
    NoSecondHalf (ps.flatMap (writePoint ascii) ++ '"' :: r) := by
  intro hescape
  rcases ps with _ | ⟨c | y, ps⟩
  · simp at hescape
  · rw [List.flatMap_cons, List.append_assoc, writePoint] at hescape ⊢
    have hwritten := written_writeChar ascii c
    have hplace := Text.toNat_not_surrogate c
    generalize writeChar ascii c = t at hwritten hescape ⊢
    cases hwritten with
    | @letter e he _ =>
      obtain rfl : e = 'u' := by simpa using hescape
      cases he
    | number hn =>
      exact ⟨c.toNat, by simpa [unicodeEscape] using Text.hexValue?_hexDigits hn, by omega⟩
    | self _ hb _ _ =>
      rw [List.singleton_append, List.take_succ_cons] at hescape
      exact absurd (List.cons.inj hescape).1 hb
    | pair hn =>
      have hlt : 0xD800 + (c.toNat - 0x10000) / 0x400 < 0xDC00 := by omega
      exact ⟨_, by simpa [unicodeEscape] using Text.hexValue?_hexDigits (by omega), by omega⟩
  · have hlt := h y rfl
    have hvalue : Text.hexValue? (Text.hexDigits 4 y.position) = some y.position :=
      Text.hexValue?_hexDigits (by omega)
    exact ⟨y.position, by simpa [writePoint, Half.escape] using hvalue, by omega⟩

/-- Points that were written are read up to the closing quote. -/
lemma readString_flatMap_writePoint (ascii : Bool) (start r : List Char) {ps : List Point}
    (hps : Unpaired ps) {fuel : Nat} (h : ps.length < fuel) :
    readString start fuel (ps.flatMap (writePoint ascii) ++ '"' :: r) = .ok (ps, r) := by
  induction ps generalizing fuel with
  | nil =>
    obtain ⟨k, rfl⟩ : ∃ k, fuel = k + 1 := ⟨fuel - 1, by omega⟩
    simp [readString]
  | cons p ps ih =>
    obtain ⟨k, rfl⟩ : ∃ k, fuel = k + 1 := ⟨fuel - 1, by omega⟩
    obtain ⟨hnext, hrest⟩ := List.isChain_cons.1 hps
    have hk : ps.length < k := by simpa using h
    have hread := ih hrest hk
    rw [List.flatMap_cons, List.append_assoc]
    cases p with
    | char c => exact readString_writeChar ascii c hread
    | half x =>
      refine readString_half ?_ hread
      by_cases hx : 0xDC00 ≤ x.position
      · exact .inl hx
      · refine .inr (noSecondHalf_flatMap_writePoint ascii r fun y hy => ?_)
        by_contra hsecond
        exact hnext _ hy ⟨x, y, rfl, rfl, Nat.lt_of_not_le hx, Nat.le_of_not_lt hsecond⟩

/-- A point is written with at least one character. -/
lemma length_le_length_flatMap_writePoint (ascii : Bool) (ps : List Point) :
    ps.length ≤ (ps.flatMap (writePoint ascii)).length := by
  induction ps with
  | nil => exact Nat.le_refl _
  | cons p ps ih =>
    have hp : 0 < (writePoint ascii p).length := by
      cases p with
      | half x => exact Nat.succ_pos _
      | char c =>
        have hwritten := written_writeChar ascii c
        rw [writePoint]
        generalize writeChar ascii c = t at hwritten ⊢
        cases hwritten with
        | _ => exact Nat.succ_pos _
    rw [List.flatMap_cons, List.length_append, List.length_cons]
    omega

/-- A text that was written in quotes is read as it was. -/
theorem readQuoted_writeText (ascii : Bool) {t : Text} (ht : Unpaired t.points) (r : List Char)
    {fuel : Nat} (h : (writeText ascii t).length ≤ fuel) :
    ∃ u, writeText ascii t ++ r = '"' :: u ∧ readQuoted fuel u = .ok (t, r) := by
  have hlen := length_le_length_flatMap_writePoint ascii t.points
  have hfuel : t.points.length < fuel := by
    simp only [writeText, List.length_append, List.length_cons, List.length_nil] at h
    omega
  refine ⟨t.points.flatMap (writePoint ascii) ++ '"' :: r, by simp [writeText], ?_⟩
  rw [readQuoted, readString_flatMap_writePoint ascii _ r ht hfuel, ok_bind]
  dsimp only
  rw [Text.ofPoints_points]

end CssMargin.Json
