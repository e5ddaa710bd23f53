/-
# Tokens

The parts that a YAML text is made of once blanks, comments and the spelling of scalars are
forgotten.  Where a block collection begins and ends, and where the key of a mapping begins, is
not written in the text but follows from the indentation and from the colons; these places are
tokens of their own.
-/
import CssMargin.Yaml.Tag
namespace CssMargin.Yaml

/-- A part of a text. -/
inductive Token where
  /-- A line before a document. -/
  | directive (d : Directive)
  /-- The marker `---`. -/
  | documentStart
  /-- The marker `...`. -/
  | documentEnd
  /-- The beginning of a block sequence. -/
  | blockSequenceStart
  /-- The beginning of a block mapping. -/
  | blockMappingStart
  /-- The end of a block collection. -/
  | blockEnd
  /-- An opening bracket. -/
  | flowSequenceStart
  /-- A closing bracket. -/
  | flowSequenceEnd
  /-- An opening brace. -/
  | flowMappingStart
  /-- A closing brace. -/
  | flowMappingEnd
  /-- A hyphen before an item. -/
  | blockEntry
  /-- A comma. -/
  | flowEntry
  /-- The beginning of a key. -/
  | key
  /-- A colon before a value. -/
  | value
  /-- A reference to a named node. -/
  | alias (name : String)
  /-- A name for a node. -/
  | anchor (name : String)
  /-- A tag. -/
  | tag (t : TagText)
  /-- A scalar, and whether it stands without quotes. -/
  | scalar (text : List Point) (plain : Bool)
  /-- The end of the text. -/
  | streamEnd
deriving DecidableEq, Repr

end CssMargin.Yaml
