/-
# Writing JSON

Two layouts are in use: results are printed over several lines with sorted keys and in ASCII, log
records on one line with the keys in their own order and only the escapes that JSON demands.  The
layout is a record, and one writer serves both.  Half of a surrogate pair is an escape in either:
log records go to the standard error, which can only show it so.
-/
import CssMargin.Json.Basic
namespace CssMargin.Json

/-- How a value is laid out. -/
structure Layout where
  /-- The step of indentation, or `none` for one line. -/
  indent : Option Nat
  /-- Whether characters outside ASCII are escaped. -/
  ascii : Bool
  /-- Whether the members of an object are sorted by their keys. -/
  sorted : Bool

/-- Results: two blanks a level, ASCII, sorted. -/
def Layout.result : Layout := ⟨some 2, true, true⟩

/-- Log records: one line, as it is. -/
def Layout.record : Layout := ⟨none, false, false⟩

/-- Four hexadecimal digits after `\u`. -/
def unicodeEscape (n : Nat) : List Char := '\\' :: 'u' :: Text.hexDigits 4 n

/-- How a character is written inside a string. -/
def writeChar (ascii : Bool) (c : Char) : List Char :=
  if c = '"' then ['\\', '"']
  else if c = '\\' then ['\\', '\\']
  else if c = '\n' then ['\\', 'n']
  else if c = '\r' then ['\\', 'r']
  else if c = '\t' then ['\\', 't']
  else if c = '\x0c' then ['\\', 'f']
  else if c = '\x08' then ['\\', 'b']
  else if c.toNat < 0x20 then unicodeEscape c.toNat
  else if ascii = false ∨ c.toNat < 0x7F then [c]
  else if c.toNat < 0x10000 then unicodeEscape c.toNat
  else
    let n := c.toNat - 0x10000
    unicodeEscape (0xD800 + n / 0x400) ++ unicodeEscape (0xDC00 + n % 0x400)

/-- How a point is written inside a string. -/
def writePoint (ascii : Bool) : Point → List Char
  | .char c => writeChar ascii c
  | .half h => h.escape

/-- A text in quotes. -/
def writeText (ascii : Bool) (t : Text) : List Char :=
  '"' :: t.points.flatMap (writePoint ascii) ++ ['"']

/-- The text of a number with a fraction. -/
def writeFloat : Binary64 → List Char
  | .nan => "NaN".toList
  | .infinite s => if s then "-Infinity".toList else "Infinity".toList
  | x => x.text.toList

/-- A new line at a level of nesting, or nothing in a layout of one line. -/
def Layout.newline (l : Layout) (level : Nat) : List Char :=
  match l.indent with
  | none => []
  | some k => '\n' :: List.replicate (k * level) ' '

/-- What stands between two items at a level of nesting. -/
def Layout.separator (l : Layout) (level : Nat) : List Char :=
  match l.indent with
  | none => [',', ' ']
  | some _ => ',' :: l.newline level

/-- Sort the members of an object by their keys, point by point. -/
def sortMembers {α : Type} (ms : List (Text × α)) : List (Text × α) :=
  ms.mergeSort fun a b => !decide (b.1.positions < a.1.positions)

/-- The members of an object in the order of the layout. -/
def Layout.arrange {α : Type} (l : Layout) (ms : List (Text × α)) : List (Text × α) :=
  if l.sorted then sortMembers ms else ms

mutual

/-- The text of a value at a level of nesting. -/
def writeAt (l : Layout) (level : Nat) : Json → List Char
  | .null => "null".toList
  | .bool b => (if b then "true" else "false").toList
  | .int n => (toString n).toList
  | .float x => writeFloat x
  | .text t => writeText l.ascii t
  | .list items =>
    match writeItems l (level + 1) items with
    | [] => ['[', ']']
    | ts => '[' :: l.newline (level + 1) ++ (l.separator (level + 1)).intercalate ts ++
        l.newline level ++ [']']
  | .object members =>
    match l.arrange (writeMembers l (level + 1) members) with
    | [] => ['{', '}']
    | ts => '{' :: l.newline (level + 1) ++
        (l.separator (level + 1)).intercalate
          (ts.map fun t => writeText l.ascii t.1 ++ ':' :: ' ' :: t.2) ++
        l.newline level ++ ['}']

/-- The texts of the items of an array. -/
def writeItems (l : Layout) (level : Nat) : List Json → List (List Char)
  | [] => []
  | j :: r => writeAt l level j :: writeItems l level r

/-- The keys of an object with the texts of its values. -/
def writeMembers (l : Layout) (level : Nat) : List (Text × Json) → List (Text × List Char)
  | [] => []
  | (k, j) :: r => (k, writeAt l level j) :: writeMembers l level r

end

theorem writeItems_eq_map (l : Layout) (level : Nat) (items : List Json) :
    writeItems l level items = items.map (writeAt l level) := by
  induction items with
  | nil => rfl
  | cons j r ih => simp [writeItems, ih]

theorem writeMembers_eq_map (l : Layout) (level : Nat) (ms : List (Text × Json)) :
    writeMembers l level ms = ms.map fun m => (m.1, writeAt l level m.2) := by
  induction ms with
  | nil => rfl
  | cons m r ih => simp [writeMembers, ih]

/-- The text of a value. -/
def write (l : Layout) (j : Json) : String := String.ofList (writeAt l 0 j)

end CssMargin.Json
