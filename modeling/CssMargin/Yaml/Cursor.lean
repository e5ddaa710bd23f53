/-
# A place in a text

The meaning of a YAML text depends on columns and lines, so what is still to be read is kept
together with the place where it begins.  A byte order mark takes up no column.

Besides the line feed, the next-line control and the line and paragraph separators end a line; the
carriage return does not occur, since line ends are made uniform before a text is read.
-/
namespace CssMargin.Yaml

/-! ### Classes of characters -/

/-- Whether a character ends a line. -/
def isBreak (c : Char) : Bool := c == '\n' || c == '\u0085' || c == '\u2028' || c == '\u2029'

/-- Whether a character is a blank or a tab. -/
def isGap (c : Char) : Bool := c == ' ' || c == '\t'

/-- Whether a character ends a word: a blank, a tab or a line end. -/
def isSpace (c : Char) : Bool := isGap c || isBreak c

/-- Whether a text ends here or goes on with a character of a class. -/
def startsWith (p : Char → Bool) : List Char → Bool
  | [] => true
  | c :: _ => p c

/-- Whether a character may occur in a text. -/
def isAllowed (c : Char) : Bool :=
  let n := c.toNat
  n == 0x09 || n == 0x0A || n == 0x0D || (0x20 ≤ n && n ≤ 0x7E) || n == 0x85 ||
    (0xA0 ≤ n && n ≤ 0xD7FF) || (0xE000 ≤ n && n ≤ 0xFFFD) || 0x10000 ≤ n

/-- Whether a character may occur in a name. -/
def isNameChar (c : Char) : Bool := c.isAlphanum || c == '-' || c == '_'

theorem isSpace_of_isBreak {c : Char} (h : isBreak c = true) : isSpace c = true := by
  simp [isSpace, h]

/-! ### Places -/

/-- The rest of a text and the place where it begins. -/
structure Cursor where
  /-- What is still to be read. -/
  rest : List Char
  /-- The number of line ends before it. -/
  line : Nat
  /-- The number of columns between the last line end and it. -/
  column : Nat
  /-- The number of characters before it. -/
  index : Nat
deriving DecidableEq, Repr

namespace Cursor

/-- The beginning of a text. -/
def start (s : List Char) : Cursor := ⟨s, 0, 0, 0⟩

/-- The place after the next character. -/
def step (c : Cursor) : Cursor :=
  match c.rest with
  | [] => c
  | x :: r =>
    if isBreak x then ⟨r, c.line + 1, 0, c.index + 1⟩
    else ⟨r, c.line, if x = '\uFEFF' then c.column else c.column + 1, c.index + 1⟩

/-- The place after so many characters. -/
def advance : Nat → Cursor → Cursor
  | 0, c => c
  | n + 1, c => advance n c.step

/-- The characters of a class that come next, and the place after them. -/
def spanWhile (p : Char → Bool) (c : Cursor) : List Char × Cursor :=
  let xs := c.rest.takeWhile p
  (xs, c.advance xs.length)

/-- The place after the characters of a class that come next. -/
def skipWhile (p : Char → Bool) (c : Cursor) : Cursor := (c.spanWhile p).2

/-- Whether the text ends here. -/
def atEnd (c : Cursor) : Bool := c.rest.isEmpty

/-- Whether the text goes on with a character of a class. -/
def next (p : Char → Bool) (c : Cursor) : Bool := c.rest.head?.any p

/-- Whether the text ends here or goes on with a character of a class. -/
def nextOrEnd (p : Char → Bool) (c : Cursor) : Bool := startsWith p c.rest

/-- Whether the text goes on with three characters and then a space or its end. -/
def atThree (x : Char) (c : Cursor) : Bool :=
  match c.rest with
  | a :: b :: d :: r => a == x && b == x && d == x && startsWith isSpace r
  | _ => false

/-- Whether the text goes on like the marker of a document. -/
def atMarker (c : Cursor) : Bool := c.atThree '-' || c.atThree '.'

/-- The line end that comes next, if one does.  The next-line control counts as a line feed. -/
def takeBreak? (c : Cursor) : Option (Char × Cursor) :=
  match c.rest with
  | [] => none
  | x :: _ => if isBreak x then some (if x = '\u0085' then '\n' else x, c.step) else none

/-- The place after the line end that comes next, if one does. -/
def skipBreak (c : Cursor) : Cursor := ((c.takeBreak?).map (·.2)).getD c

theorem rest_step (c : Cursor) : c.step.rest = c.rest.tail := by
  unfold step
  split
  · rename_i h
    simp [h]
  · rename_i h
    split <;> simp [h]

theorem rest_advance (n : Nat) (c : Cursor) : (c.advance n).rest = c.rest.drop n := by
  induction n generalizing c with
  | zero => rfl
  | succ n ih => rw [advance, ih, rest_step, List.drop_tail]

theorem rest_skipWhile (p : Char → Bool) (c : Cursor) :
    (c.skipWhile p).rest = c.rest.dropWhile p := by
  simp only [skipWhile, spanWhile, rest_advance]
  induction c.rest with
  | nil => rfl
  | cons x r ih => by_cases h : p x <;> simp [h, ih]

end Cursor

/-- What a run of line ends inside a scalar stands for: the first line feed is a blank when no
other line end follows it, and nothing otherwise. -/
def foldBreaks (first : Char) (more : List Char) : List Char :=
  if first = '\n' then (if more.isEmpty then [' '] else more) else first :: more

end CssMargin.Yaml
