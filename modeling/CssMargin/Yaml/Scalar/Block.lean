/-
# Reading block scalars

A block scalar is introduced by `|` or `>` and consists of the following lines that are indented at
least as far as its first one, or as far as a digit after the indicator says.  After `|` the line
ends are kept; after `>` a single line end between two lines that begin with a visible character
becomes a blank.  A sign after the indicator says whether the line ends at the end of the scalar
are all kept or all dropped; without it one is kept.
-/
import CssMargin.Yaml.Cursor
import CssMargin.Yaml.Fault
namespace CssMargin.Yaml

/-- What becomes of the line ends at the end of a block scalar. -/
inductive Chomping where
  /-- None is kept. -/
  | strip
  /-- One is kept. -/
  | clip
  /-- All are kept. -/
  | keep
deriving DecidableEq, Repr

/-- What stands after the indicator of a block scalar. -/
structure BlockHeader where
  /-- What becomes of the line ends at the end. -/
  chomping : Chomping
  /-- How much further than its surroundings the scalar is indented, if that is said. -/
  increment : Option Nat
deriving DecidableEq, Repr

/-- The meaning of a sign. -/
def chomping? (c : Char) : Option Chomping :=
  if c = '+' then some .keep else if c = '-' then some .strip else none

/-- The sign that comes next. -/
def readChomping (c : Cursor) : Option Chomping × Cursor :=
  match c.rest.head?.bind chomping? with
  | some k => (some k, c.step)
  | none => (none, c)

/-- The digit that comes next; zero is refused. -/
def readIncrement (c : Cursor) : Except Fault (Option Nat × Cursor) :=
  match c.rest.head? with
  | some d =>
    if d.isDigit then
      if d = '0' then .error .malformed else .ok (some (d.toNat - '0'.toNat), c.step)
    else .ok (none, c)
  | none => .ok (none, c)

/-- The place after blanks, a comment and the line end; anything else is refused. -/
def skipRestOfLine (c : Cursor) : Except Fault Cursor :=
  let c := c.skipWhile (· == ' ')
  let c := if c.next (· == '#') then c.skipWhile (fun x => !isBreak x) else c
  if c.nextOrEnd isBreak then .ok c.skipBreak else .error .malformed

/-- Read what stands after the indicator, up to the end of the line. -/
def readBlockHeader (c : Cursor) : Except Fault (BlockHeader × Cursor) := do
  let (sign, c) := readChomping c
  let (increment, c) ← readIncrement c
  let (sign, c) := match sign, increment with
    | none, some _ => readChomping c
    | sign, _ => (sign, c)
  if c.nextOrEnd (fun x => x == ' ' || isBreak x) then
    let c ← skipRestOfLine c
    .ok (⟨sign.getD .clip, increment⟩, c)
  else .error .malformed

/-- Skip blanks and line ends: the line ends, the greatest column that blanks reach, and the place
after them. -/
def readIndentation : (fuel : Nat) → (most : Nat) → Cursor → List Char × Nat × Cursor
  | 0, most, c => ([], most, c)
  | fuel + 1, most, c =>
    if c.next (· == ' ') then readIndentation fuel (max most c.step.column) c.step
    else match c.takeBreak? with
      | none => ([], most, c)
      | some (b, c) =>
        let (bs, most, c) := readIndentation fuel most c
        (b :: bs, most, c)

/-- Skip at most the blanks of the indentation. -/
def skipIndent (indent : Nat) (c : Cursor) : Cursor :=
  c.advance ((c.rest.take (indent - c.column)).takeWhile (· == ' ')).length

/-- Read empty lines, and the indentation of the line after them. -/
def readEmptyLines (indent : Nat) : (fuel : Nat) → Cursor → List Char × Cursor
  | 0, c => ([], c)
  | fuel + 1, c =>
    let c := skipIndent indent c
    match c.takeBreak? with
    | none => ([], c)
    | some (b, c) =>
      let (bs, c) := readEmptyLines indent fuel c
      (b :: bs, c)

/-- The end of a block scalar. -/
structure BlockEnd where
  /-- The text up to the end of the last line. -/
  text : List Char
  /-- The line end of the last line. -/
  lineEnd : List Char
  /-- The line ends after that. -/
  breaks : List Char
  /-- The place after the scalar. -/
  after : Cursor

/-- What a line end between two lines of a scalar stands for, before the empty lines `breaks`. -/
def betweenLines (folded visible nextVisible : Bool) (lineEnd breaks : List Char) : List Char :=
  if folded && lineEnd == ['\n'] && visible && nextVisible then
    (if breaks.isEmpty then [' '] else [])
  else lineEnd

/-- Read the lines of a block scalar; `breaks` are the empty lines before the next one. -/
def readLines (folded : Bool) (indent : Nat) :
    (fuel : Nat) → (breaks : List Char) → Cursor → BlockEnd
  | 0, breaks, c => ⟨[], [], breaks, c⟩
  | fuel + 1, breaks, c =>
    if c.column == indent && !c.atEnd then
      -- a line with more blanks in front is not joined with its neighbours
      let visible := !c.next isGap
      let (line, c) := c.spanWhile (fun x => !isBreak x)
      let lineEnd := match c.takeBreak? with
        | some (b, _) => [b]
        | none => []
      let c := c.skipBreak
      let (more, c) := readEmptyLines indent fuel c
      if c.column == indent && !c.atEnd then
        let e := readLines folded indent fuel more c
        let between := betweenLines folded visible (!c.next isGap) lineEnd more
        { e with text := breaks ++ line ++ between ++ e.text }
      else ⟨breaks ++ line, lineEnd, more, c⟩
    else ⟨[], [], breaks, c⟩

/-- Read a block scalar after its indicator, inside a construct that is indented by `parent`. -/
def readBlock (folded : Bool) (parent : Int) (fuel : Nat) (c : Cursor) :
    Except Fault (List Char × Cursor) := do
  let (header, c) ← readBlockHeader c
  let least := (max 1 (parent + 1)).toNat
  -- if the header does not say how far the lines are indented, the first one with text does
  let (indent, breaks, c) := match header.increment with
    | some k =>
      let indent := least + k - 1
      let (bs, c) := readEmptyLines indent fuel c
      (indent, bs, c)
    | none =>
      let (bs, most, c) := readIndentation fuel 0 c
      (max least most, bs, c)
  let e := readLines folded indent fuel breaks c
  let tail := match header.chomping with
    | .strip => []
    | .clip => e.lineEnd
    | .keep => e.lineEnd ++ e.breaks
  .ok (e.text ++ tail, e.after)

end CssMargin.Yaml
