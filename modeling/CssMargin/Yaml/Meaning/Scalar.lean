/-
# What scalars stand for

A scalar stands for a value according to its tag.  Numbers, days and moments have their own readers;
the readers of bytes and of truth values are here.

Bytes are written in base 64: four characters carry three bytes.  Characters outside the alphabet
are passed over.  Two equals signs after the second character of a group, or one after the third,
end the text; without them an unfinished group is refused.
-/
import CssMargin.Value
import CssMargin.Yaml.Meaning.Number
import CssMargin.Yaml.Meaning.Timestamp
import CssMargin.Yaml.Tag
namespace CssMargin.Yaml

/-! ### Bytes -/

/-- The six bits that a character stands for. -/
def sixBits? (c : Char) : Option Nat :=
  if c.isUpper then some (c.toNat - 'A'.toNat)
  else if c.isLower then some (c.toNat - 'a'.toNat + 26)
  else if c.isDigit then some (c.toNat - '0'.toNat + 52)
  else if c = '+' then some 62
  else if c = '/' then some 63
  else none

/-- Decode from a place inside a group on: how many characters of the group have been read, the
bits of the last one that are still to be used, and the number of equals signs just before. -/
def decodeGroups : (place left pads : Nat) → List Char → Option (List UInt8)
  | place, _, _, [] => if place = 0 then some [] else none
  | place, left, pads, c :: r =>
    if c = '=' then
      if 2 ≤ place ∧ 4 ≤ place + pads + 1 then some []
      else decodeGroups place left (if 2 ≤ place then pads + 1 else pads) r
    else match sixBits? c with
      | none => decodeGroups place left pads r
      | some n =>
        match place with
        | 0 => decodeGroups 1 n 0 r
        | 1 => (UInt8.ofNat (left * 4 + n / 16) :: ·) <$> decodeGroups 2 (n % 16) 0 r
        | 2 => (UInt8.ofNat (left * 16 + n / 4) :: ·) <$> decodeGroups 3 (n % 4) 0 r
        | _ => (UInt8.ofNat (left * 64 + n) :: ·) <$> decodeGroups 0 0 0 r

/-- Read bytes; a text with anything outside ASCII is refused. -/
def readBinary (s : List Point) : Except Fault (List UInt8) :=
  if s.all fun p => p.position < 0x80 then
    match decodeGroups 0 0 0 (s.map Point.face) with
    | some bytes => .ok bytes
    | none => .error .malformed
  else .error .malformed

/-! ### All tags -/

/-- Read a truth value, in any letter case. -/
def readTruth (s : List Point) : Except Mishap Bool :=
  let word := Text.lowerPoints s
  if ["yes", "true", "on"].any fun w => w.toList == word then .ok true
  else if ["no", "false", "off"].any fun w => w.toList == word then .ok false
  else .error (.truth word)

/-- What a reader of scalars says, as an answer about the whole text. -/
def ofScalar {α : Type} (f : α → Value) : Except Mishap α → Except Fault Value
  | .ok a => .ok (f a)
  | .error m => .error (.mishap m)

/-- The value of a scalar with a tag other than that of a collection. -/
def scalarValue (tag : Tag) (s : List Point) : Except Fault Value :=
  match tag with
  | .kind .text => .ok (.text (Text.ofPoints s))
  | .kind .null => .ok .null
  | .kind .bool => ofScalar .bool (readTruth s)
  | .kind .int => ofScalar .int (readInteger s)
  | .kind .float => ofScalar .float (readNumber s)
  | .kind .timestamp => ofScalar (Sum.elim .date .moment) (readTimestamp s)
  | .binary => .bytes <$> readBinary s
  | _ => .error .malformed

@[simp] theorem scalarValue_text (s : List Point) :
    scalarValue (.kind .text) s = .ok (.text (Text.ofPoints s)) := rfl

end CssMargin.Yaml
