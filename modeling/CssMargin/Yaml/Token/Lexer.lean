/-
# From text to tokens

A block collection begins where the indentation grows and ends where it falls back.  That a scalar
is the key of a mapping shows only at the colon behind it.  So wherever a key may begin, the list
of tokens gets an empty slot, and a colon on the same line and not too far behind fills the slot
with the beginning of the key and, if this is its first key, of the mapping; slots that are never
filled vanish.  Per level of brackets there is at most one place that may still become a key.

The text is read in steps of one token each.  If a step fails, the tokens in front of the first
place that could still become a key have been passed on already; they are kept with the fault.
-/
import CssMargin.Yaml.Scalar.Plain
import CssMargin.Yaml.Scalar.Quoted
import CssMargin.Yaml.Token
namespace CssMargin.Yaml

/-- A token, or a place where the beginning of a key may have to be put in. -/
inductive Item where
  /-- A token. -/
  | token (t : Token)
  /-- A place for a key. -/
  | slot (id : Nat)
deriving DecidableEq, Repr

/-- A place that may still become a key. -/
structure KeyPlace where
  /-- The level of brackets it is on. -/
  level : Nat
  /-- Its slot. -/
  slot : Nat
  /-- Whether it has to become a key, since it stands where only a key may stand. -/
  required : Bool
  /-- Its line. -/
  line : Nat
  /-- Its column. -/
  column : Nat
  /-- Its position. -/
  index : Nat
deriving DecidableEq, Repr

/-- What is known between two tokens. -/
structure Lexer where
  /-- The place reached. -/
  cursor : Cursor
  /-- The tokens so far, the last one first. -/
  items : List Item
  /-- The next unused slot. -/
  fresh : Nat
  /-- The column of the innermost block collection, `-1` outside all. -/
  indent : Int
  /-- The columns of the block collections around it. -/
  indents : List Int
  /-- The number of open brackets. -/
  level : Nat
  /-- Whether a key may begin here. -/
  allowKey : Bool
  /-- The places that may still become keys. -/
  keys : List KeyPlace

namespace Lexer

/-- The beginning of a text. -/
def start (s : List Char) : Lexer := ⟨Cursor.start s, [], 0, -1, [], 0, true, []⟩

/-- Add a token. -/
def emit (t : Token) (l : Lexer) : Lexer := { l with items := .token t :: l.items }

/-- Go on from another place. -/
def moveTo (c : Cursor) (l : Lexer) : Lexer := { l with cursor := c }

/-- Say whether a key may begin next. -/
def allow (b : Bool) (l : Lexer) : Lexer := { l with allowKey := b }

/-- Put tokens, the last one first, in the place of a slot. -/
def fillSlot (slot : Nat) (ts : List Token) : List Item → List Item
  | [] => []
  | .slot id :: r => if id = slot then ts.map .token ++ r else .slot id :: fillSlot slot ts r
  | i :: r => i :: fillSlot slot ts r

/-- The tokens among items in reading order. -/
def tokensOf (items : List Item) : List Token :=
  items.filterMap fun
    | .token t => some t
    | .slot _ => none

/-- How far behind its beginning the colon of a key may stand. -/
def keyReach : Nat := 1024

/-- Whether a place can no longer become a key. -/
def isStale (c : Cursor) (k : KeyPlace) : Bool :=
  k.line != c.line || decide (keyReach < c.index - k.index)

/-- Give up the places that can no longer become keys; a required one may not be given up. -/
def dropStale (l : Lexer) : Except Fault Lexer :=
  if l.keys.any fun k => isStale l.cursor k && k.required then .error .malformed
  else .ok { l with keys := l.keys.filter fun k => !isStale l.cursor k }

/-- The place on the present level that may still become a key. -/
def key? (l : Lexer) : Option KeyPlace := l.keys.find? (·.level == l.level)

/-- Give up the place on the present level. -/
def dropKey (l : Lexer) : Except Fault Lexer :=
  match l.key? with
  | some k =>
    if k.required then .error .malformed
    else .ok { l with keys := l.keys.filter (·.level != l.level) }
  | none => .ok l

/-- Note that a key may begin here. -/
def saveKey (l : Lexer) : Except Fault Lexer :=
  if l.allowKey then do
    -- in the column of a block mapping nothing but a key may stand
    let required := l.level == 0 && l.indent == (l.cursor.column : Int)
    let l ← l.dropKey
    let k : KeyPlace :=
      ⟨l.level, l.fresh, required, l.cursor.line, l.cursor.column, l.cursor.index⟩
    .ok { l with items := .slot l.fresh :: l.items, fresh := l.fresh + 1, keys := k :: l.keys }
  else .ok l

/-- End the block collections that are indented further than a column. -/
def unwindTo (column : Int) : List Int → Lexer → Lexer
  | outer :: outers, l =>
    if column < l.indent then
      unwindTo column outers { l.emit .blockEnd with indent := outer, indents := outers }
    else l
  | [], l => l

/-- End the block collections that are indented further than a column, outside brackets. -/
def unwind (column : Int) (l : Lexer) : Lexer :=
  if l.level = 0 then unwindTo column l.indents l else l

/-- Whether a column is further in than the innermost block collection. -/
def isDeeper (column : Nat) (l : Lexer) : Bool := decide (l.indent < column)

/-- Make a column that of the innermost block collection. -/
def pushIndent (column : Nat) (l : Lexer) : Lexer :=
  { l with indents := l.indent :: l.indents, indent := column }

/-- Begin a block collection here if the indentation grows. -/
def openBlock (t : Token) (l : Lexer) : Lexer :=
  if l.isDeeper l.cursor.column then (l.pushIndent l.cursor.column).emit t else l

/-! ### Steps -/

/-- The place of the next token, and whether a line end was passed. -/
def skipToToken : (fuel : Nat) → (passed : Bool) → Cursor → Bool × Cursor
  | 0, passed, c => (passed, c)
  | fuel + 1, passed, c =>
    let c := c.skipWhile (· == ' ')
    let c := if c.next (· == '#') then c.skipWhile (fun x => !isBreak x) else c
    match c.takeBreak? with
    | some (_, c) => skipToToken fuel true c
    | none => (passed, c)

/-- Go to the next token.  Outside brackets a key may begin after a line end. -/
def skip (fuel : Nat) (l : Lexer) : Lexer :=
  -- a byte order mark is passed over at the very beginning only
  let c := if l.cursor.index = 0 ∧ l.cursor.next (· == '\uFEFF') then l.cursor.step else l.cursor
  let (passed, c) := skipToToken fuel false c
  { l with cursor := c, allowKey := l.allowKey || (passed && l.level == 0) }

/-- End all block collections at the end of a document or of the text. -/
def closeBlocks (l : Lexer) : Except Fault Lexer := do
  let l ← (l.unwind (-1)).dropKey
  .ok (l.allow false)

/-- A directive. -/
def takeDirective (fuel : Nat) (l : Lexer) : Except Fault Lexer := do
  let l ← l.closeBlocks
  let (d, c) ← readDirective fuel l.cursor
  .ok ((l.emit (.directive d)).moveTo c)

/-- The marker of a document. -/
def takeMarker (t : Token) (l : Lexer) : Except Fault Lexer := do
  let l ← l.closeBlocks
  .ok ((l.emit t).moveTo (l.cursor.advance 3))

/-- An opening bracket. -/
def takeOpening (t : Token) (l : Lexer) : Except Fault Lexer := do
  let l ← l.saveKey
  .ok ({ l with level := l.level + 1, allowKey := true }.emit t |>.moveTo l.cursor.step)

/-- A closing bracket. -/
def takeClosing (t : Token) (l : Lexer) : Except Fault Lexer := do
  let l ← l.dropKey
  .ok ({ l with level := l.level - 1, allowKey := false }.emit t |>.moveTo l.cursor.step)

/-- A comma. -/
def takeComma (l : Lexer) : Except Fault Lexer := do
  let l ← (l.allow true).dropKey
  .ok ((l.emit .flowEntry).moveTo l.cursor.step)

/-- The hyphen before an item. -/
def takeHyphen (l : Lexer) : Except Fault Lexer := do
  if l.level = 0 ∧ l.allowKey = false then .error .malformed
  else
    let l := if l.level = 0 then l.openBlock .blockSequenceStart else l
    let l ← (l.allow true).dropKey
    .ok ((l.emit .blockEntry).moveTo l.cursor.step)

/-- The question mark before a key. -/
def takeQuestion (l : Lexer) : Except Fault Lexer := do
  if l.level = 0 ∧ l.allowKey = false then .error .malformed
  else
    let l := if l.level = 0 then l.openBlock .blockMappingStart else l
    let l ← (l.allow (l.level == 0)).dropKey
    .ok ((l.emit .key).moveTo l.cursor.step)

/-- The colon before a value: it makes the place before it a key, or stands behind an explicit or
missing key. -/
def takeColon (l : Lexer) : Except Fault Lexer := do
  match l.key? with
  | some k =>
    -- the first key of a mapping stands further in than what is around the mapping
    let opens := l.level == 0 && l.isDeeper k.column
    let begun := if opens then [Token.key, .blockMappingStart] else [.key]
    let l := if opens then l.pushIndent k.column else l
    let l := { l with
      items := fillSlot k.slot begun l.items
      keys := l.keys.filter (·.level != l.level)
      allowKey := false }
    .ok ((l.emit .value).moveTo l.cursor.step)
  | none =>
    if l.level = 0 ∧ l.allowKey = false then .error .malformed
    else
      let l := if l.level = 0 then l.openBlock .blockMappingStart else l
      let l ← (l.allow (l.level == 0)).dropKey
      .ok ((l.emit .value).moveTo l.cursor.step)

/-- The name behind `*` or `&`. -/
def readName (c : Cursor) : Except Fault (String × Cursor) :=
  let (name, c) := c.step.spanWhile isNameChar
  if name.isEmpty || !c.nextOrEnd (fun x => isSpace x || "?:,]\x7d%@`".toList.contains x) then
    .error .malformed
  else .ok (String.ofList name, c)

/-- A reference or a name for a node. -/
def takeName (t : String → Token) (l : Lexer) : Except Fault Lexer := do
  let l ← l.saveKey
  let (name, c) ← readName l.cursor
  .ok ((l.allow false).emit (t name) |>.moveTo c)

/-- A tag. -/
def takeTag (fuel : Nat) (l : Lexer) : Except Fault Lexer := do
  let l ← l.saveKey
  let (t, c) ← readTag fuel l.cursor
  .ok ((l.allow false).emit (.tag t) |>.moveTo c)

/-- A block scalar. -/
def takeBlockScalar (folded : Bool) (fuel : Nat) (l : Lexer) : Except Fault Lexer := do
  let l ← (l.allow true).dropKey
  let (text, c) ← readBlock folded l.indent fuel l.cursor.step
  .ok ((l.emit (.scalar text false)).moveTo c)

/-- A scalar in quotes. -/
def takeQuoted (q : Quote) (fuel : Nat) (l : Lexer) : Except Fault Lexer := do
  let l ← l.saveKey
  let (text, c) ← readQuoted q fuel l.cursor
  .ok ((l.allow false).emit (.scalar text false) |>.moveTo c)

/-- A scalar without quotes. -/
def takePlain (fuel : Nat) (l : Lexer) : Except Fault Lexer := do
  let l ← l.saveKey
  let (text, crossed, c) := readPlain (l.level != 0) (l.indent + 1) fuel l.cursor
  .ok ((l.allow crossed).emit (.scalar text true) |>.moveTo c)

/-- The end of the text. -/
def finish (l : Lexer) : Except Fault Lexer := do
  let l ← (l.unwind (-1)).dropKey
  .ok ({ l with keys := [], allowKey := false }.emit .streamEnd)

/-- Whether a scalar without quotes may begin here. -/
def startsPlain (l : Lexer) : Bool :=
  match l.cursor.rest with
  | [] => false
  | x :: r =>
    !(isSpace x || "-?:,[]\x7b\x7d#&*!|>'\"%@`".toList.contains x) ||
      (!startsWith isSpace r && (x == '-' || (l.level == 0 && (x == '?' || x == ':'))))

/-- Read the token that begins here, if it is not the end of the text. -/
def takeToken (fuel : Nat) (x : Char) (r : List Char) (l : Lexer) : Except Fault Lexer :=
  -- a sign in front of a blank is an indicator, and in front of a word it belongs to the word;
  -- inside brackets the question mark and the colon are always indicators
  let alone := startsWith isSpace r
  let first := l.cursor.column == 0
  if x = '%' ∧ first = true then l.takeDirective fuel
  else if first = true ∧ l.cursor.atThree '-' = true then l.takeMarker .documentStart
  else if first = true ∧ l.cursor.atThree '.' = true then l.takeMarker .documentEnd
  else if x = '[' then l.takeOpening .flowSequenceStart
  else if x = '{' then l.takeOpening .flowMappingStart
  else if x = ']' then l.takeClosing .flowSequenceEnd
  else if x = '}' then l.takeClosing .flowMappingEnd
  else if x = ',' then l.takeComma
  else if x = '-' ∧ alone = true then l.takeHyphen
  else if x = '?' ∧ (l.level ≠ 0 ∨ alone = true) then l.takeQuestion
  else if x = ':' ∧ (l.level ≠ 0 ∨ alone = true) then l.takeColon
  else if x = '*' then l.takeName .alias
  else if x = '&' then l.takeName .anchor
  else if x = '!' then l.takeTag fuel
  else if x = '|' ∧ l.level = 0 then l.takeBlockScalar false fuel
  else if x = '>' ∧ l.level = 0 then l.takeBlockScalar true fuel
  else if x = '\'' then l.takeQuoted .single fuel
  else if x = '"' then l.takeQuoted .double fuel
  else if l.startsPlain then l.takePlain fuel
  else .error .malformed

/-- Read one token, and say whether it was the end of the text. -/
def next (fuel : Nat) (l : Lexer) : Except Fault (Lexer × Bool) := do
  let l ← (l.skip fuel).dropStale
  -- the column of the next token shows which collections are over
  let l := l.unwind l.cursor.column
  match l.cursor.rest with
  | [] => do
    let l ← l.finish
    .ok (l, true)
  | x :: r => do
    let l ← l.takeToken fuel x r
    .ok (l, false)

/-- The tokens in front of the first place that may still become a key. -/
def released (l : Lexer) : List Token :=
  let open? (i : Item) : Bool :=
    match i with
    | .slot id => l.keys.any fun k => k.slot == id && !isStale l.cursor k
    | .token _ => false
  tokensOf (l.items.reverse.takeWhile fun i => !open? i)

/-- Read all tokens, or as many as are passed on before a fault.  Every token but the last takes up
a character, so that the fuel stays above the number of characters left; it is also enough for the
readers of a single token. -/
def run : (fuel : Nat) → Lexer → List Token × Option Fault
  | 0, l => (l.released, some .malformed)
  | fuel + 1, l =>
    match l.next fuel with
    | .error f => (l.released, some f)
    | .ok (l, true) => (tokensOf l.items.reverse, none)
    | .ok (l, false) => run fuel l

end Lexer

/-- The tokens of a text, or those in front of a fault. -/
def Token.ofText (s : List Char) : List Token × Option Fault :=
  Lexer.run (s.length + 2) (Lexer.start s)

end CssMargin.Yaml
