/-
# Reading JSON

The reader takes a text from the left and hands on what it has not read.  A fault is a reason and
what was left of the text at its place; from that and the whole text its line and column follow.
Three things go beyond the standard: `NaN`, `Infinity` and `-Infinity` are numbers, the last of
several members with one key wins, and an integer of more than 4300 digits is refused.

The three readers of values, of one value, of the items of an array and of the members of an
object, call each other; each call uses up one unit of fuel and, in between, at least one character
is read, so that a fuel of twice the length of the text is never used up and what is left of it is
always enough for a string.
-/
import CssMargin.Json.Basic
import CssMargin.Text.Numeral
namespace CssMargin.Json

/-- What is wrong with a text that is not JSON. -/
inductive Reason where
  /-- A value should begin here. -/
  | value
  /-- A member of an object should begin here. -/
  | name
  /-- A colon should stand here. -/
  | colon
  /-- A comma should stand here. -/
  | comma
  /-- The value is complete, but the text goes on. -/
  | extra
  /-- The text ends inside a string. -/
  | unterminated
  /-- A control character stands inside a string. -/
  | control
  /-- No escape begins with this letter. -/
  | escape
  /-- Four hexadecimal digits should stand here. -/
  | hex
  /-- The text begins with a byte order mark. -/
  | byteOrderMark
deriving DecidableEq, Repr

/-- Why a text could not be read. -/
inductive Fault where
  /-- It is not JSON, at the place where `rest` was still to be read. -/
  | malformed (reason : Reason) (rest : List Char)
  /-- It holds an integer that is too long. -/
  | longInteger (digits : Nat)
deriving DecidableEq, Repr

/-- The wording of a reason. -/
def Reason.text : Reason → String
  | .value => "Expecting value"
  | .name => "Expecting property name enclosed in double quotes"
  | .colon => "Expecting ':' delimiter"
  | .comma => "Expecting ',' delimiter"
  | .extra => "Extra data"
  | .unterminated => "Unterminated string starting at"
  | .control => "Invalid control character at"
  | .escape => "Invalid \\escape"
  | .hex => "Invalid \\uXXXX escape"
  | .byteOrderMark => "Unexpected UTF-8 BOM (decode using utf-8-sig)"

/-- A place in a text, as line, column and number of characters before it. -/
def placeText (before : List Char) : String :=
  let line := before.count '\n' + 1
  let column := (before.reverse.takeWhile (· ≠ '\n')).length + 1
  "line " ++ toString line ++ " column " ++ toString column ++
    " (char " ++ toString before.length ++ ")"

/-- The report on a reason at the place of a text where the rest begins. -/
def Reason.report (reason : Reason) (rest whole : List Char) : String :=
  reason.text ++ ": " ++ placeText (whole.take (whole.length - rest.length))

/-- The blanks of JSON. -/
def isSpace (c : Char) : Bool := c == ' ' || c == '\t' || c == '\n' || c == '\r'

/-- A text without the blanks at its beginning. -/
def skip (s : List Char) : List Char := s.dropWhile isSpace

/-! ### Numbers -/

/-- The digits at the beginning of a text, and the rest. -/
def spanDigits (s : List Char) : List Char × List Char :=
  (s.takeWhile Char.isDigit, s.dropWhile Char.isDigit)

/-- The digits before the point: a zero, or digits that do not begin with one. -/
def wholePart? (s : List Char) : Option (List Char × List Char) :=
  match s with
  | '0' :: r => some (['0'], r)
  | c :: _ => if c.isDigit then some (spanDigits s) else none
  | [] => none

/-- The digits after a point, when there is a point with a digit after it. -/
def fractionPart? (s : List Char) : Option (List Char × List Char) :=
  match s with
  | '.' :: r =>
    let (ds, rest) := spanDigits r
    if ds.isEmpty then none else some (ds, rest)
  | _ => none

/-- An exponent with at least one digit. -/
def exponentPart? (s : List Char) : Option (Int × List Char) :=
  match s with
  | c :: r =>
    if c = 'e' ∨ c = 'E' then
      let (negative, r) := match r with
        | '-' :: r => (true, r)
        | '+' :: r => (false, r)
        | r => (false, r)
      let (ds, rest) := spanDigits r
      if ds.isEmpty then none
      else some (if negative then -(Text.decimalValue ds : Int) else Text.decimalValue ds, rest)
    else none
  | [] => none

/-- Read a number that begins after its sign; `start` is the text from the sign on. -/
def readNumber (negative : Bool) (start s : List Char) : Except Fault (Json × List Char) :=
  match wholePart? s with
  | none => .error (.malformed .value start)
  | some (whole, r) =>
    let fraction := fractionPart? r
    let r := (fraction.map (·.2)).getD r
    let exponent := exponentPart? r
    let r := (exponent.map (·.2)).getD r
    -- only digits are an integer, which is limited in length
    if fraction.isNone && exponent.isNone then
      if Text.digitLimit < whole.length then .error (.longInteger whole.length)
      else
        let n : Int := Text.decimalValue whole
        .ok (.int (if negative then -n else n), r)
    else
      let after := (fraction.map (·.1)).getD []
      let e := (exponent.map (·.1)).getD 0 - after.length
      .ok (.float (Binary64.ofDecimal negative (Text.decimalValue (whole ++ after)) e), r)

/-! ### Strings -/

/-- The character that a letter after a backslash stands for. -/
def escaped? (c : Char) : Option Char :=
  match c with
  | '"' => some '"'
  | '\\' => some '\\'
  | '/' => some '/'
  | 'b' => some '\x08'
  | 'f' => some '\x0c'
  | 'n' => some '\n'
  | 'r' => some '\r'
  | 't' => some '\t'
  | _ => none

/-- Read the digits after `\u`, and the second half of a pair if the first half calls for one; a
half without the other is kept.  At least one character has to follow the digits. -/
def readUnicode (s : List Char) : Except Fault (Point × List Char) :=
  let bad (r : List Char) : Except Fault (Point × List Char) := .error (.malformed .hex ('u' :: r))
  if s.drop 4 = [] then bad s
  else match Text.hexValue? (s.take 4) with
    | none => bad s
    | some high =>
      let r := s.drop 4
      -- a first half is completed by a second half if that is written behind it
      if 0xD800 ≤ high ∧ high < 0xDC00 ∧ r.drop 6 ≠ [] ∧ r.take 2 = ['\\', 'u'] then
        let r' := r.drop 2
        match Text.hexValue? (r'.take 4) with
        | none => bad r'
        | some low =>
          if 0xDC00 ≤ low ∧ low < 0xE000 then
            .ok (.char (Char.ofNat (0x10000 + (high - 0xD800) * 0x400 + (low - 0xDC00))), r'.drop 4)
          else .ok (Point.ofPosition high, r)
      else .ok (Point.ofPosition high, r)

/-- Read a string after its opening quote; `start` is the text from the quote on.  A fuel of the
number of characters is enough. -/
def readString (start : List Char) :
    (fuel : Nat) → List Char → Except Fault (List Point × List Char)
  | 0, _ | _, [] => .error (.malformed .unterminated start)
  | fuel + 1, c :: r =>
    if c = '"' then .ok ([], r)
    else if c = '\\' then
      match r with
      | [] => .error (.malformed .unterminated start)
      | 'u' :: r => do
        let (x, r) ← readUnicode r
        let (xs, r) ← readString start fuel r
        .ok (x :: xs, r)
      | e :: r =>
        match escaped? e with
        | none => .error (.malformed .escape ('\\' :: e :: r))
        | some x => do
          let (xs, r) ← readString start fuel r
          .ok (.char x :: xs, r)
    else if c.toNat ≤ 0x1F then .error (.malformed .control (c :: r))
    else do
      let (xs, r) ← readString start fuel r
      .ok (.char c :: xs, r)

/-- Read a string after its opening quote. -/
def readQuoted (fuel : Nat) (r : List Char) : Except Fault (Text × List Char) := do
  let (xs, r) ← readString ('"' :: r) fuel r
  .ok (Text.ofPoints xs, r)

/-- The words with a meaning of their own. -/
def keywords : List (List Char × Json) :=
  [("null".toList, .null), ("true".toList, .bool true), ("false".toList, .bool false),
    ("NaN".toList, .float .nan), ("Infinity".toList, .float (.infinite false)),
    ("-Infinity".toList, .float (.infinite true))]

/-- The word at the beginning of a text. -/
def keyword? (s : List Char) : Option (Json × List Char) :=
  (keywords.find? fun w => w.1.isPrefixOf s).map fun w => (w.2, s.drop w.1.length)

/-! ### Values -/

mutual

/-- Read a value. -/
def readValue : (fuel : Nat) → List Char → Except Fault (Json × List Char)
  | 0, s => .error (.malformed .value s)
  | fuel + 1, s =>
    match s with
    | [] => .error (.malformed .value [])
    | '"' :: r => do
      let (t, r) ← readQuoted fuel r
      .ok (.text t, r)
    | '[' :: r =>
      match skip r with
      | ']' :: r => .ok (.list [], r)
      | r => do
        let (items, r) ← readItems fuel r
        .ok (.list items, r)
    | '{' :: r =>
      match skip r with
      | '}' :: r => .ok (.object [], r)
      | r => do
        let (members, r) ← readMembers fuel r
        .ok (.object (ofMembers members), r)
    | c :: r =>
      match keyword? s with
      | some found => .ok found
      | none => if c = '-' then readNumber true s r else readNumber false s s

/-- Read the items of an array up to its closing bracket. -/
def readItems : (fuel : Nat) → List Char → Except Fault (List Json × List Char)
  | 0, s => .error (.malformed .value s)
  | fuel + 1, s => do
    let (j, r) ← readValue fuel s
    match skip r with
    | ']' :: r => .ok ([j], r)
    | ',' :: r => do
      let (js, r) ← readItems fuel (skip r)
      .ok (j :: js, r)
    | r => .error (.malformed .comma r)

/-- Read the members of an object up to its closing brace. -/
def readMembers : (fuel : Nat) → List Char → Except Fault (List (Text × Json) × List Char)
  | 0, s => .error (.malformed .value s)
  | fuel + 1, s =>
    match s with
    | '"' :: r => do
      let (k, r) ← readQuoted fuel r
      match skip r with
      | ':' :: r => do
        let (j, r) ← readValue fuel (skip r)
        match skip r with
        | '}' :: r => .ok ([(k, j)], r)
        | ',' :: r => do
          let (ms, r) ← readMembers fuel (skip r)
          .ok ((k, j) :: ms, r)
        | r => .error (.malformed .comma r)
      | r => .error (.malformed .colon r)
    | s => .error (.malformed .name s)

end

/-- Read a whole text. -/
def read (s : List Char) : Except Fault Json :=
  if s.head? = some '\uFEFF' then .error (.malformed .byteOrderMark s)
  else do
    let (j, r) ← readValue (2 * s.length + 1) (skip s)
    match skip r with
    | [] => .ok j
    | r => .error (.malformed .extra r)

end CssMargin.Json
