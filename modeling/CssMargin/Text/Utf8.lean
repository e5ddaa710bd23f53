/-
# Reading and writing UTF-8

The reader is strict: no overlong form, no surrogate, nothing above U+10FFFF.  It goes through
the bytes one at a time, and between two bytes it is either at the start of a character or inside
one; in the second case it remembers which bytes may come next.  That range is what makes it
strict: after the first byte `E0` only `A0` to `BF` may follow, and so on.  A fault names the
bytes from the first one of the broken character up to the last one that still fitted.
-/
namespace CssMargin.Text

/-- Why a sequence of bytes is not a text. -/
inductive Utf8Reason where
  /-- No character begins with this byte. -/
  | invalidStart
  /-- The character that has begun cannot go on with this byte. -/
  | invalidContinuation
  /-- The bytes end inside a character. -/
  | unexpectedEnd
deriving DecidableEq, Repr

/-- A place where a sequence of bytes stops being a text. -/
structure Utf8Fault where
  /-- The byte that begins the broken character. -/
  byte : UInt8
  /-- Its position. -/
  first : Nat
  /-- The position of the last byte that belongs to the broken character. -/
  last : Nat
  /-- What is wrong with it. -/
  reason : Utf8Reason
deriving DecidableEq, Repr

/-- The inside of a character: what has been read of it and which bytes may follow. -/
structure Utf8Inside where
  /-- The byte that began the character. -/
  lead : UInt8
  /-- Its position. -/
  start : Nat
  /-- The bits read so far. -/
  bits : Nat
  /-- How many bytes are still to come. -/
  missing : Nat
  /-- The least byte that may come next. -/
  low : Nat
  /-- The greatest byte that may come next. -/
  high : Nat
deriving DecidableEq, Repr

/-- The state after the first byte of a character of several bytes. -/
def Utf8Inside.ofLead? (b : UInt8) (pos : Nat) : Option Utf8Inside :=
  let n := b.toNat
  if 0xC2 ≤ n ∧ n ≤ 0xDF then some ⟨b, pos, n - 0xC0, 1, 0x80, 0xBF⟩
  else if n = 0xE0 then some ⟨b, pos, 0, 2, 0xA0, 0xBF⟩
  else if n = 0xED then some ⟨b, pos, 0xD, 2, 0x80, 0x9F⟩
  else if 0xE1 ≤ n ∧ n ≤ 0xEF then some ⟨b, pos, n - 0xE0, 2, 0x80, 0xBF⟩
  else if n = 0xF0 then some ⟨b, pos, 0, 3, 0x90, 0xBF⟩
  else if 0xF1 ≤ n ∧ n ≤ 0xF3 then some ⟨b, pos, n - 0xF0, 3, 0x80, 0xBF⟩
  else if n = 0xF4 then some ⟨b, pos, 4, 3, 0x80, 0x8F⟩
  else none

/-- Read on from a position, either between two characters or inside one. -/
def decodeUtf8From (pos : Nat) : Option Utf8Inside → List UInt8 → Except Utf8Fault (List Char)
  | none, [] => .ok []
  | some p, [] => .error ⟨p.lead, p.start, pos - 1, .unexpectedEnd⟩
  | none, b :: r =>
    if b.toNat < 0x80 then
      (Char.ofNat b.toNat :: ·) <$> decodeUtf8From (pos + 1) none r
    else match Utf8Inside.ofLead? b pos with
      | some p => decodeUtf8From (pos + 1) (some p) r
      | none => .error ⟨b, pos, pos, .invalidStart⟩
  | some p, b :: r =>
    if p.low ≤ b.toNat ∧ b.toNat ≤ p.high then
      let bits := p.bits * 64 + (b.toNat - 0x80)
      if p.missing ≤ 1 then
        (Char.ofNat bits :: ·) <$> decodeUtf8From (pos + 1) none r
      else
        decodeUtf8From (pos + 1) (some ⟨p.lead, p.start, bits, p.missing - 1, 0x80, 0xBF⟩) r
    else .error ⟨p.lead, p.start, pos - 1, .invalidContinuation⟩

/-- The characters that a sequence of bytes stands for, or where it goes wrong. -/
def decodeUtf8 (bytes : List UInt8) : Except Utf8Fault (List Char) :=
  decodeUtf8From 0 none bytes

/-- The bytes of a text. -/
def encodeUtf8 (s : List Char) : List UInt8 := s.flatMap String.utf8EncodeChar

/-- The wording of a reason. -/
def Utf8Reason.text : Utf8Reason → String
  | .invalidStart => "invalid start byte"
  | .invalidContinuation => "invalid continuation byte"
  | .unexpectedEnd => "unexpected end of data"

/-- A byte as two hexadecimal digits. -/
def hexByte (n : Nat) : String :=
  String.ofList [Nat.digitChar (n / 16 % 16), Nat.digitChar (n % 16)]

/-- The report of a fault: one byte by its value and position, several by their positions. -/
def Utf8Fault.message (f : Utf8Fault) : String :=
  let place :=
    if f.first = f.last then
      "byte 0x" ++ hexByte f.byte.toNat ++ " in position " ++ toString f.first
    else "bytes in position " ++ toString f.first ++ "-" ++ toString f.last
  "'utf-8' codec can't decode " ++ place ++ ": " ++ f.reason.text

end CssMargin.Text
