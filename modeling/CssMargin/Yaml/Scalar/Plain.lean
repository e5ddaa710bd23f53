/-
# Reading scalars without quotes

A scalar without quotes ends before a colon or a number sign that stands at a word's edge, inside
brackets also before the characters that structure them, and outside brackets where a line is not
indented far enough.  Its words may be on several lines; the line ends between them are folded.
-/
import CssMargin.Yaml.Cursor
namespace CssMargin.Yaml

/-- The characters that structure a collection in brackets. -/
def isBracketChar (c : Char) : Bool := ",[]\x7b\x7d".toList.contains c

/-- Whether a colon before a character, or before the end of the text, ends a word. -/
def endsKey (inFlow : Bool) (s : List Char) : Bool :=
  startsWith (fun d => isSpace d || (inFlow && isBracketChar d)) s

/-- The word that a text begins with. -/
def plainWord (inFlow : Bool) : List Char → List Char
  | [] => []
  | c :: r =>
    if isSpace c then []
    else if c = ':' ∧ endsKey inFlow r = true then []
    else if inFlow = true ∧ (c = '?' ∨ isBracketChar c = true) then []
    else c :: plainWord inFlow r

/-- Blanks and line ends between two words: the line ends, or nothing when the marker of a document
begins a line, and the place after them. -/
def readPlainBreaks : (fuel : Nat) → Cursor → Option (List Char) × Cursor
  | 0, c => (some [], c)
  | fuel + 1, c =>
    if c.next (· == ' ') then readPlainBreaks fuel c.step
    else match c.takeBreak? with
      | none => (some [], c)
      | some (b, c) =>
        if c.atMarker then (none, c)
        else
          let (bs, c) := readPlainBreaks fuel c
          (bs.map (b :: ·), c)

/-- What stands between two words. -/
structure PlainGap where
  /-- What it stands for; nothing when the scalar ends here. -/
  text : List Char
  /-- Whether it goes over a line end. -/
  crossed : Bool
  /-- The place after it. -/
  after : Cursor

/-- Read what stands between two words. -/
def readPlainGap (fuel : Nat) (c : Cursor) : PlainGap :=
  let (blanks, c) := c.spanWhile (· == ' ')
  match c.takeBreak? with
  | none => ⟨blanks, false, c⟩
  | some (b, c) =>
    if c.atMarker then ⟨[], true, c⟩
    else
      let (bs, c) := readPlainBreaks fuel c
      ⟨(bs.map (foldBreaks b)).getD [], true, c⟩

/-- Read words from a place on; `gap` stands before the first and is kept only if there is one.
The result says whether the scalar ended after a line end. -/
def readWords (inFlow : Bool) (indent : Int) :
    (fuel : Nat) → (gap : List Char) → (crossed : Bool) → Cursor → List Char × Bool × Cursor
  | 0, _, crossed, c => ([], crossed, c)
  | fuel + 1, gap, crossed, c =>
    if c.next (· == '#') then ([], crossed, c)
    else
      let word := plainWord inFlow c.rest
      if word.isEmpty then ([], crossed, c)
      else
        let g := readPlainGap fuel (c.advance word.length)
        if g.text.isEmpty || g.after.next (· == '#') ||
            (!inFlow && decide ((g.after.column : Int) < indent)) then
          (gap ++ word, g.crossed, g.after)
        else
          let (more, crossed, c) := readWords inFlow indent fuel g.text g.crossed g.after
          (gap ++ word ++ more, crossed, c)

/-- Read a scalar without quotes: its text, whether it ended after a line end, and the place after
it. -/
def readPlain (inFlow : Bool) (indent : Int) (fuel : Nat) (c : Cursor) :
    List Char × Bool × Cursor :=
  readWords inFlow indent fuel [] false c

end CssMargin.Yaml
