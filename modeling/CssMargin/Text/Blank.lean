/-
# Blank characters

A margin value counts as `auto` whatever blanks surround it, and a number in a settings file may
be padded in the same way.  "Blank" is meant in the Unicode sense: twenty-nine characters, among
them the four information separators and the next-line control, but not the zero-width space.
This file fixes the class and the operation of trimming it from both ends of a text.
-/
import CssMargin.Text.Basic
namespace CssMargin.Text

/-- The Unicode white space characters, and the information separators U+001C to U+001F. -/
def isBlank (c : Char) : Bool :=
  let n := c.toNat
  (0x09 ≤ n && n ≤ 0x0D) || (0x1C ≤ n && n ≤ 0x20) || n == 0x85 || n == 0xA0 || n == 0x1680 ||
    (0x2000 ≤ n && n ≤ 0x200A) || n == 0x2028 || n == 0x2029 || n == 0x202F || n == 0x205F ||
    n == 0x3000

/-- What is left of a text after the blanks at its right end are removed. -/
def trimRight (s : List Char) : List Char :=
  (s.reverse.dropWhile isBlank).reverse

/-- What is left of a text after the blanks at both ends are removed. -/
def trim (s : List Char) : List Char :=
  trimRight (s.dropWhile isBlank)

/-- A text with its ASCII capitals made small; no other character changes. -/
def lowerAscii (s : List Char) : List Char := s.map Char.toLower

/-- Whether a text is a word, in any letter case of ASCII and between any blanks. -/
def isWord (word : String) (t : Text) : Bool :=
  t.isWhole && lowerAscii (trim t.head.toList) == word.toList

@[simp] theorem isWord_coe (word s : String) :
    isWord word s = (lowerAscii (trim s.toList) == word.toList) := by
  simp [isWord]

/-- Only a text without halves is a word. -/
theorem isWord_iff {word : String} {t : Text} :
    isWord word t = true ↔ ∃ s : String, t = s ∧ lowerAscii (trim s.toList) = word.toList := by
  obtain ⟨s, r⟩ := t
  cases r with
  | nil => simp
  | cons x r => simp [isWord, isWhole]

end CssMargin.Text
