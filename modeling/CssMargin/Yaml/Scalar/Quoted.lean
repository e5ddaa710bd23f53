/-
# Reading scalars in quotes

A scalar in quotes goes on to the matching quote.  Blanks around a line end are dropped and the
line end becomes a blank, or, when empty lines follow, the line ends after the first.  Between
apostrophes a doubled apostrophe stands for one; between quotation marks a backslash begins an
escape, and before a line end it keeps the two lines together.
-/
import CssMargin.Yaml.Cursor
import CssMargin.Yaml.Fault
namespace CssMargin.Yaml

/-- The quotes that a scalar stands in. -/
inductive Quote where
  /-- Apostrophes. -/
  | single
  /-- Quotation marks. -/
  | double
deriving DecidableEq, Repr

/-- The character of a quote. -/
def Quote.char : Quote → Char
  | .single => '\''
  | .double => '"'

/-- The character that a letter after a backslash stands for. -/
def unescape? (c : Char) : Option Char :=
  match c with
  | '0' => some '\x00'
  | 'a' => some '\x07'
  | 'b' => some '\x08'
  | 't' | '\t' => some '\t'
  | 'n' => some '\n'
  | 'v' => some '\x0b'
  | 'f' => some '\x0c'
  | 'r' => some '\r'
  | 'e' => some '\x1b'
  | ' ' => some ' '
  | '"' => some '"'
  | '\\' => some '\\'
  | '/' => some '/'
  | 'N' => some '\u0085'
  | '_' => some '\u00a0'
  | 'L' => some '\u2028'
  | 'P' => some '\u2029'
  | _ => none

/-- The number of hexadecimal digits after a letter that announces them. -/
def escapeWidth? (c : Char) : Option Nat :=
  match c with
  | 'x' => some 2
  | 'u' => some 4
  | 'U' => some 8
  | _ => none

/-- Read line ends with blanks between them.  The marker of a document may not begin a line. -/
def readBreaks : (fuel : Nat) → Cursor → Except Fault (List Char × Cursor)
  | 0, _ => .error .malformed
  | fuel + 1, c =>
    if c.atMarker then .error .malformed
    else
      let c := c.skipWhile isGap
      match c.takeBreak? with
      | none => .ok ([], c)
      | some (b, c) => do
        let (bs, c) ← readBreaks fuel c
        .ok (b :: bs, c)

/-- Read blanks inside a scalar, which may surround line ends. -/
def readGap (fuel : Nat) (c : Cursor) : Except Fault (List Char × Cursor) :=
  let (gap, c) := c.spanWhile isGap
  match c.takeBreak? with
  | some (b, c) => do
    let (bs, c) ← readBreaks fuel c
    .ok (foldBreaks b bs, c)
  | none => if c.atEnd then .error .malformed else .ok (gap, c)

/-- Read an escape after its backslash. -/
def readEscape (fuel : Nat) (c : Cursor) : Except Fault (List Point × Cursor) :=
  match c.rest with
  | [] => .error .malformed
  | e :: r =>
    match unescape? e with
    | some x => .ok ([.char x], c.step)
    | none =>
      match escapeWidth? e with
      | some width =>
        let digits := r.take width
        if digits.length < width then .error .malformed
        else match Text.hexValue? digits with
          | none => .error .malformed
          | some n =>
            if 0x10FFFF < n then .error (.mishap (.codePoint n))
            else .ok ([Point.ofPosition n], c.step.advance width)
      | none =>
        if isBreak e then do
          let (bs, c) ← readBreaks fuel c.step
          .ok (bs, c)
        else .error .malformed

/-- Read a scalar in quotes after its opening quote. -/
def readQuotedBody (q : Quote) : (fuel : Nat) → Cursor → Except Fault (List Point × Cursor)
  | 0, _ => .error .malformed
  | fuel + 1, c =>
    match c.rest with
    | [] => .error .malformed
    | x :: r =>
      if isSpace x then do
        let (xs, c) ← readGap fuel c
        let (ys, c) ← readQuotedBody q fuel c
        .ok ((xs : List Point) ++ ys, c)
      else if x = q.char then
        if q = .single ∧ r.head? = some '\'' then do
          let (ys, c) ← readQuotedBody q fuel (c.advance 2)
          .ok (.char x :: ys, c)
        else .ok ([], c.step)
      else if q = .double ∧ x = '\\' then do
        let (xs, c) ← readEscape fuel c.step
        let (ys, c) ← readQuotedBody q fuel c
        .ok (xs ++ ys, c)
      else do
        let (ys, c) ← readQuotedBody q fuel c.step
        .ok (.char x :: ys, c)

/-- Read a scalar in quotes that begins with its opening quote. -/
def readQuoted (q : Quote) (fuel : Nat) (c : Cursor) : Except Fault (List Point × Cursor) :=
  readQuotedBody q fuel c.step

end CssMargin.Yaml
