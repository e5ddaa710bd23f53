/-
# Texts in quotes

Reports show a text from outside in quotes: apostrophes, unless the text has an apostrophe and no
quotation mark, and then quotation marks.  Inside, the backslash and the quote in use are preceded
by a backslash, line ends and tabs are written by a letter, and a character that would not be seen
is written by its position in two, four or eight hexadecimal digits, as is half of a surrogate pair.
-/
import CssMargin.Text.Basic
import CssMargin.Text.Printable
import CssMargin.Text.Utf8
namespace CssMargin.Text

/-- The quote that a text is shown in. -/
def quoteFor (s : List Char) : Char :=
  if s.contains '\'' && !s.contains '"' then '"' else '\''

/-- How a character is written between two quotes. -/
def escapeIn (quote c : Char) : List Char :=
  if c = quote ∨ c = '\\' then ['\\', c]
  else if c = '\n' then ['\\', 'n']
  else if c = '\r' then ['\\', 'r']
  else if c = '\t' then ['\\', 't']
  else if isPrintable c then [c]
  else if c.toNat < 0x100 then '\\' :: 'x' :: hexDigits 2 c.toNat
  else if c.toNat < 0x10000 then '\\' :: 'u' :: hexDigits 4 c.toNat
  else '\\' :: 'U' :: hexDigits 8 c.toNat

/-- How a point is written between two quotes. -/
def escapePoint (quote : Char) : Point → List Char
  | .char c => escapeIn quote c
  | .half h => h.escape

/-- Points in quotes. -/
def literalOf (ps : List Point) : List Char :=
  let q := quoteFor (ps.map Point.face)
  q :: ps.flatMap (escapePoint q) ++ [q]

/-- A text in quotes. -/
def literal (t : Text) : String := String.ofList (literalOf t.points)

/-- How a byte is written between two quotes: ASCII as the character, all else as a number. -/
def escapeByte (quote : Char) (b : UInt8) : List Char :=
  if b.toNat < 0x80 then escapeIn quote (Char.ofNat b.toNat)
  else '\\' :: 'x' :: hexDigits 2 b.toNat

/-- Bytes in quotes, marked by a letter in front. -/
def bytesLiteral (bytes : List UInt8) : String :=
  let q := quoteFor (bytes.map fun b => Char.ofNat b.toNat)
  String.ofList ('b' :: q :: bytes.flatMap (escapeByte q) ++ [q])

end CssMargin.Text
