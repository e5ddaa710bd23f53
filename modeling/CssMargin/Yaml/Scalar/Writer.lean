/-
# Writing a scalar

A scalar that goes beyond the eightieth column is continued on the next line, at a fixed
indentation.  Without quotes and between apostrophes a line may end at a single blank; between
quotation marks it may end anywhere after a backslash, and is ended at a blank or an escape.  The
writers follow the column in which the next character would stand.
-/
import CssMargin.Text.Literal
import CssMargin.Yaml.Scalar.Style
namespace CssMargin.Yaml

/-- The column after which a scalar is continued on the next line. -/
def bestWidth : Nat := 80

/-- The blanks at the beginning of a continued line. -/
def continuation (indent : Nat) : List Char := List.replicate indent ' '

/-- A stretch of a text. -/
inductive Stretch where
  /-- Characters other than blanks and line ends. -/
  | word (s : List Char)
  /-- Blanks. -/
  | blanks (n : Nat)
  /-- Line ends. -/
  | breaks (s : List Char)
deriving DecidableEq, Repr

/-- Put a character in front of a text that is cut into stretches. -/
def Stretch.cons (c : Char) (ss : List Stretch) : List Stretch :=
  if c = ' ' then
    match ss with
    | .blanks n :: r => .blanks (n + 1) :: r
    | r => .blanks 1 :: r
  else if isBreak c then
    match ss with
    | .breaks s :: r => .breaks (c :: s) :: r
    | r => .breaks [c] :: r
  else
    match ss with
    | .word s :: r => .word (c :: s) :: r
    | r => .word [c] :: r

/-- A text cut into stretches. -/
def Stretch.ofText (s : List Char) : List Stretch := s.foldr Stretch.cons []

/-! ### Without quotes -/

/-- Write stretches without quotes, from a column on. -/
def writePlain (indent : Nat) : (column : Nat) → List Stretch → List Char
  | _, [] => []
  | column, .blanks n :: r =>
    if n = 1 ∧ bestWidth < column then
      '\n' :: continuation indent ++ writePlain indent indent r
    else List.replicate n ' ' ++ writePlain indent (column + n) r
  | column, .word s :: r | column, .breaks s :: r => s ++ writePlain indent (column + s.length) r

/-! ### Between apostrophes -/

/-- A word with its apostrophes doubled. -/
def doubleQuotes (s : List Char) : List Char :=
  s.flatMap fun c => if c = '\'' then ['\'', '\''] else [c]

/-- Line ends between apostrophes: a line feed is written once more than it occurs. -/
def writeBreaks (s : List Char) : List Char :=
  (if s.head? = some '\n' then ['\n'] else []) ++ s

/-- Write stretches between apostrophes, from a column on.  The first and the last stretch are
never made a line end. -/
def writeSingle (indent : Nat) : (first : Bool) → (column : Nat) → List Stretch → List Char
  | _, _, [] => []
  | first, column, .blanks n :: r =>
    if n = 1 ∧ bestWidth < column ∧ first = false ∧ r.isEmpty = false then
      '\n' :: continuation indent ++ writeSingle indent false indent r
    else List.replicate n ' ' ++ writeSingle indent false (column + n) r
  | _, column, .word s :: r =>
    let t := doubleQuotes s
    t ++ writeSingle indent false (column + t.length) r
  | _, _, .breaks s :: r =>
    writeBreaks s ++ continuation indent ++ writeSingle indent false indent r

/-! ### Between quotation marks -/

/-- The letter of a short escape. -/
def escapeLetter? (c : Char) : Option Char :=
  match c with
  | '\x00' => some '0'
  | '\x07' => some 'a'
  | '\x08' => some 'b'
  | '\t' => some 't'
  | '\n' => some 'n'
  | '\x0b' => some 'v'
  | '\x0c' => some 'f'
  | '\r' => some 'r'
  | '\x1b' => some 'e'
  | '"' => some '"'
  | '\\' => some '\\'
  | '\u0085' => some 'N'
  | '\u2028' => some 'L'
  | '\u2029' => some 'P'
  | _ => none

/-- A number in capital hexadecimal digits. -/
def capitalHex (width n : Nat) : List Char := (Text.hexDigits width n).map Char.toUpper

/-- Whether a character is written as it is between quotation marks. -/
def isVerbatim (c : Char) : Bool :=
  let n := c.toNat
  c != '"' && c != '\\' &&
    ((0x20 ≤ n && n ≤ 0x7E) ||
      (0xA0 ≤ n && n ≤ 0xFFFD && n != 0x2028 && n != 0x2029 && n != 0xFEFF))

/-- The escape of a character. -/
def escape (c : Char) : List Char :=
  match escapeLetter? c with
  | some e => ['\\', e]
  | none =>
    if c.toNat ≤ 0xFF then '\\' :: 'x' :: capitalHex 2 c.toNat
    else if c.toNat ≤ 0xFFFF then '\\' :: 'u' :: capitalHex 4 c.toNat
    else '\\' :: 'U' :: capitalHex 8 c.toNat

/-- The escape of half of a surrogate pair. -/
def escapeHalf (h : Half) : List Char := '\\' :: 'u' :: capitalHex 4 h.position

/-- How a point is written between quotation marks: as it is, or by an escape. -/
def verbatimOrEscape : Point → Char ⊕ List Char
  | .char c => if isVerbatim c then .inl c else .inr (escape c)
  | .half h => .inr (escapeHalf h)

/-- A line end between quotation marks before the text `r`; a blank that begins the next line is
kept by a backslash. -/
def foldBefore (indent : Nat) (r : List Point) : List Char :=
  '\\' :: '\n' :: continuation indent ++ (if r.head? = some (.char ' ') then ['\\'] else [])

/-- The column after such a line end. -/
def columnAfterFold (indent : Nat) (r : List Point) : Nat :=
  if r.head? = some (.char ' ') then indent + 1 else indent

/-- Write a text between quotation marks, from a column on.  A line is ended before a blank or
after an escape, and not at the first and the last character; `inWord` says whether the character
before was written as it is on the same line. -/
def writeDouble (indent : Nat) : (first inWord : Bool) → (column : Nat) → List Point → List Char
  | _, _, _, [] => []
  | first, inWord, column, p :: r =>
    let inner := !first && !r.isEmpty
    match verbatimOrEscape p with
    | .inl c =>
      if inner = true ∧ bestWidth < column ∧ (c = ' ' ∨ inWord = false) then
        foldBefore indent (p :: r) ++
          c :: writeDouble indent false true (columnAfterFold indent (p :: r) + 1) r
      else c :: writeDouble indent false true (column + 1) r
    | .inr e =>
      -- the line may end behind the escape, and then what follows begins a new stretch
      let column := column + e.length
      if inner = true ∧ bestWidth + 1 < column then
        e ++ foldBefore indent r ++ writeDouble indent false false (columnAfterFold indent r) r
      else e ++ writeDouble indent false false column r

/-! ### All styles -/

/-- Write a text as a scalar in a style, from a column on. -/
def writeIn (style : ScalarStyle) (indent column : Nat) (s : List Char) : List Char :=
  match style with
  | .plain => writePlain indent column (Stretch.ofText s)
  | .single => '\'' :: writeSingle indent true (column + 1) (Stretch.ofText s) ++ ['\'']
  | .double => '"' :: writeDouble indent true false (column + 1) s ++ ['"']

/-- Write a text as a scalar, from a column on.  Only an escape can carry half of a surrogate
pair. -/
def writeScalar (indent column : Nat) (t : Text) : List Char :=
  match t.tail with
  | [] => writeIn (ScalarStyle.ofText t.head.toList) indent column t.head.toList
  | _ => '"' :: writeDouble indent true false (column + 1) t.points ++ ['"']

end CssMargin.Yaml
