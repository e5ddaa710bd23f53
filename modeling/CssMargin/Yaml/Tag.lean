/-
# Tags

A tag says what a node is.  It is written with a handle, which abbreviates a beginning, and a
suffix; the text that results is looked up among the tags with a meaning.  Handles other than `!`
and `!!` are declared by directives before the document.
-/
import CssMargin.Text.Utf8
import CssMargin.Yaml.Kind
import CssMargin.Yaml.Scalar.Block
namespace CssMargin.Yaml

/-- What a node is. -/
inductive Tag where
  /-- What a plain scalar can be. -/
  | kind (k : Kind)
  /-- Bytes. -/
  | binary
  /-- A list of single entries with different keys. -/
  | omap
  /-- A list of single entries. -/
  | pairs
  /-- A set. -/
  | set
  /-- A sequence. -/
  | seq
  /-- A mapping. -/
  | map
  /-- Anything else. -/
  | unknown
deriving DecidableEq, Repr

namespace Tag

/-- What the tags with a meaning begin with. -/
def schema : String := "tag:yaml.org,2002:"

/-- The names of the tags with a meaning. -/
def names : List (String × Tag) :=
  [("str", .kind .text), ("null", .kind .null), ("bool", .kind .bool), ("int", .kind .int),
    ("float", .kind .float), ("timestamp", .kind .timestamp), ("merge", .kind .merge),
    ("value", .kind .default), ("yaml", .kind .indicator), ("binary", .binary), ("omap", .omap),
    ("pairs", .pairs), ("set", .set), ("seq", .seq), ("map", .map)]

/-- The tag with a given text. -/
def ofText (s : String) : Tag :=
  match names.find? fun n => schema ++ n.1 == s with
  | some (_, t) => t
  | none => .unknown

/-- Whether a tag is that of a collection. -/
def isCollection : Tag → Bool
  | .omap | .pairs | .set | .seq | .map => true
  | _ => false

end Tag

/-- A tag as it is written: an optional handle, and the suffix. -/
structure TagText where
  /-- The handle. -/
  handle : Option String
  /-- The suffix. -/
  suffix : String
deriving DecidableEq, Repr

/-- The handles that are known in a document, with what they abbreviate. -/
abbrev Handles := List (String × String)

/-- The handles that need no declaration. -/
def Handles.standard : Handles := [("!", "!"), ("!!", Tag.schema)]

/-- A tag with its handle replaced by what it abbreviates. -/
def TagText.resolve? (handles : Handles) (t : TagText) : Option String :=
  match t.handle with
  | none => some t.suffix
  | some h => (handles.lookup h).map (· ++ t.suffix)

/-! ### Reading -/

/-- The characters of a tag besides the escapes. -/
def isTagChar (c : Char) : Bool := c.isAlphanum || "-;/?:@&=+$,_.!~*'()[]".toList.contains c

/-- Read bytes that are written as `%` and two hexadecimal digits. -/
def readTagBytes : List Char → Except Fault (List UInt8 × Nat)
  | '%' :: a :: b :: r =>
    match Text.hexValue? [a, b] with
    | none => .error .malformed
    | some n => do
      let (bytes, count) ← readTagBytes r
      .ok (UInt8.ofNat n :: bytes, count + 3)
  | '%' :: _ => .error .malformed
  | _ => .ok ([], 0)

/-- Read the characters of a tag; a run of escapes has to be a text. -/
def readTagChars : (fuel : Nat) → Cursor → Except Fault (List Char × Cursor)
  | 0, _ => .error .malformed
  | fuel + 1, c =>
    let (xs, c) := c.spanWhile isTagChar
    if c.next (· == '%') then do
      let (bytes, count) ← readTagBytes c.rest
      match Text.decodeUtf8 bytes with
      | .error _ => .error .malformed
      | .ok ys => do
        let (zs, c) ← readTagChars fuel (c.advance count)
        .ok (xs ++ ys ++ zs, c)
    else .ok (xs, c)

/-- Read the suffix of a tag, or what a handle abbreviates; it must not be empty. -/
def readTagUri (fuel : Nat) (c : Cursor) : Except Fault (String × Cursor) := do
  let (xs, after) ← readTagChars fuel c
  if after.index = c.index then .error .malformed else .ok (String.ofList xs, after)

/-- Read a handle: `!` alone before a blank, otherwise a name between two `!`. -/
def readHandle (c : Cursor) : Except Fault (String × Cursor) :=
  match c.rest with
  | '!' :: r =>
    if r.head? = some ' ' then .ok ("!", c.step)
    else
      let name := r.takeWhile isNameChar
      if (r.drop name.length).head? = some '!' then
        .ok (String.ofList ('!' :: name ++ ['!']), c.advance (name.length + 2))
      else .error .malformed
  | _ => .error .malformed

/-- Whether a blank or a line end comes next, or nothing. -/
def Cursor.atWordEnd (c : Cursor) : Bool := c.nextOrEnd fun x => x == ' ' || isBreak x

/-- Read a tag. -/
def readTag (fuel : Nat) (c : Cursor) : Except Fault (TagText × Cursor) := do
  -- it is written out between angle brackets, or stands alone, or is abbreviated by a handle
  let body := c.rest.drop 1
  let (tag, c) ← show Except Fault (TagText × Cursor) from
    if body.head? = some '<' then do
      let (uri, c) ← readTagUri fuel (c.advance 2)
      if c.next (· == '>') then .ok (⟨none, uri⟩, c.step) else .error .malformed
    else if startsWith isSpace body then .ok (⟨none, "!"⟩, c.step)
    else if (body.takeWhile fun x => !(x == ' ' || isBreak x)).contains '!' then do
      let (handle, c) ← readHandle c
      let (uri, c) ← readTagUri fuel c
      .ok (⟨some handle, uri⟩, c)
    else do
      let (uri, c) ← readTagUri fuel c.step
      .ok (⟨some "!", uri⟩, c)
  if c.atWordEnd then .ok (tag, c) else .error .malformed

/-! ### Directives -/

/-- A line before a document that begins with `%`. -/
inductive Directive where
  /-- The version of the notation. -/
  | version (major minor : Nat)
  /-- What a handle abbreviates. -/
  | handle (name meaning : String)
  /-- Any other. -/
  | other
deriving DecidableEq, Repr

/-- Read a number of the version, which must not have too many digits. -/
def readVersionNumber (c : Cursor) : Except Fault (Nat × Cursor) :=
  let (ds, c) := c.spanWhile Char.isDigit
  if ds.isEmpty then .error .malformed
  else if Text.digitLimit < ds.length then .error (.mishap (.longInteger ds.length))
  else .ok (Text.decimalValue ds, c)

/-- Read a directive. -/
def readDirective (fuel : Nat) (c : Cursor) : Except Fault (Directive × Cursor) := do
  let (name, c) := c.step.spanWhile isNameChar
  if name.isEmpty || !c.atWordEnd then .error .malformed
  else
    let (directive, c) ← show Except Fault (Directive × Cursor) from
      if name = "YAML".toList then do
        let (major, c) ← readVersionNumber (c.skipWhile (· == ' '))
        if c.next (· == '.') then do
          let (minor, c) ← readVersionNumber c.step
          if c.atWordEnd then .ok (.version major minor, c) else .error .malformed
        else .error .malformed
      else if name = "TAG".toList then do
        let (handle, c) ← readHandle (c.skipWhile (· == ' '))
        if c.next (· == ' ') then do
          let (meaning, c) ← readTagUri fuel (c.skipWhile (· == ' '))
          if c.atWordEnd then .ok (.handle handle meaning, c) else .error .malformed
        else .error .malformed
      else .ok (.other, c.skipWhile fun x => !isBreak x)
    let c ← skipRestOfLine c
    .ok (directive, c)

end CssMargin.Yaml
