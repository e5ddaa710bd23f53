/-
# How a text is written as a scalar

A text is written without quotes when it is read back as that text: it must not be spelled like
something else, must not begin like another construct, and must not lose blanks or line ends.
Otherwise it is written in single quotes when these can carry it, and in double quotes when it has
characters that only an escape can carry or blanks next to line ends.
-/
import CssMargin.Yaml.Cursor
import CssMargin.Yaml.Kind
namespace CssMargin.Yaml

/-- The ways to write a scalar. -/
inductive ScalarStyle where
  /-- Without quotes. -/
  | plain
  /-- Between apostrophes. -/
  | single
  /-- Between quotation marks, with escapes. -/
  | double
deriving DecidableEq, Repr

namespace ScalarStyle

/-- Characters that begin another construct wherever a scalar begins with them. -/
def isLeadingIndicator (c : Char) : Bool := "#,[]\x7b\x7d&*!|>'\"%@`".toList.contains c

/-- Whether a character can be written only as an escape. -/
def isSpecial (c : Char) : Bool :=
  let n := c.toNat
  !(n == 0x0A || (0x20 ≤ n && n ≤ 0x7E) || n == 0x85 || (0xA0 ≤ n && n ≤ 0xD7FF) ||
    (0xE000 ≤ n && n ≤ 0xFFFD && n != 0xFEFF) || (0x10000 ≤ n && n < 0x10FFFF))

/-- Whether an indicator stands at the beginning of a text. -/
def hasLeadingIndicator : List Char → Bool
  | [] => false
  | c :: r =>
    isLeadingIndicator c || ((c == '?' || c == ':' || c == '-') && startsWith isSpace r)

/-- Whether inside a text, after the character `before`, a colon ends a word or a number sign
begins one. -/
def hasInnerIndicator (before : Char) : List Char → Bool
  | [] => false
  | c :: r =>
    (c == ':' && startsWith isSpace r) || (c == '#' && isSpace before) || hasInnerIndicator c r

/-- Whether a text has a character of the class `p` directly before one of the class `q`. -/
def hasAdjacent (p q : Char → Bool) : List Char → Bool
  | c :: d :: r => (p c && q d) || hasAdjacent p q (d :: r)
  | _ => false

/-- Whether a text begins like the marker of a document. -/
def hasMarker (s : List Char) : Bool :=
  "---".toList.isPrefixOf s || "...".toList.isPrefixOf s

/-- Whether a text has a blank or a line end at one of its ends. -/
def hasOuterSpace (s : List Char) : Bool :=
  let outer (c : Char) : Bool := c == ' ' || isBreak c
  s.head?.any outer || s.getLast?.any outer

/-- Whether a text may be written without quotes. -/
def allowsPlain (s : List Char) : Bool :=
  match s with
  | [] => true
  | c :: r =>
    !(hasMarker s || hasLeadingIndicator s || hasInnerIndicator c r || hasOuterSpace s ||
      s.any isBreak || s.any isSpecial)

/-- Whether a text may be written between apostrophes. -/
def allowsSingle (s : List Char) : Bool :=
  !(hasAdjacent isBreak (· == ' ') s || hasAdjacent (· == ' ') isBreak s || s.any isSpecial)

/-- The style in which a text is written. -/
def ofText (s : List Char) : ScalarStyle :=
  if Kind.ofText s = .text ∧ allowsPlain s = true then .plain
  else if allowsSingle s = true then .single
  else .double

end ScalarStyle

end CssMargin.Yaml
