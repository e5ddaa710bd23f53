/-
# Values in messages

Messages show values in two ways.  Shown as such, a text appears without quotes; shown as a literal,
and always inside a collection, it appears with quotes.  A value in which an integer with too many
digits occurs cannot be shown at all.
-/
import CssMargin.Value
namespace CssMargin.Value

/-- The spelling of a truth value. -/
def boolWord (b : Bool) : String := if b then "True" else "False"

/-- Texts in curly brackets. -/
def braced (s : String) : String := String.singleton '{' ++ s ++ String.singleton '}'

mutual

/-- A value as a literal. -/
def literal : Value → String
  | .null => "None"
  | .bool b => boolWord b
  | .int n => toString n
  | .float x => x.text
  | .text s => Text.literal s
  | .bytes b => Text.bytesLiteral b
  | .date d => d.text
  | .moment m => m.text " "
  | .list items => "[" ++ ", ".intercalate (literals items) ++ "]"
  | .map entries => braced (", ".intercalate (entryLiterals entries))
  | .set items => braced (", ".intercalate (literals items))

/-- The items of a list as literals. -/
def literals : List Value → List String
  | [] => []
  | v :: r => v.literal :: literals r

/-- The entries of a mapping as literals. -/
def entryLiterals : List (Value × Value) → List String
  | [] => []
  | (k, v) :: r => (k.literal ++ ": " ++ v.literal) :: entryLiterals r

end

/-- A value as such. -/
def shown : Value → Text
  | .text t => t
  | v => v.literal

mutual

/-- Whether an integer with too many digits to be shown occurs in a value. -/
def hasLongInteger : Value → Bool
  | .int n => Text.isLongInteger n
  | .list items | .set items => anyLongInteger items
  | .map entries => anyLongEntry entries
  | _ => false

/-- Whether such an integer occurs in one of some values. -/
def anyLongInteger : List Value → Bool
  | [] => false
  | v :: r => v.hasLongInteger || anyLongInteger r

/-- Whether such an integer occurs in one of the entries of a mapping. -/
def anyLongEntry : List (Value × Value) → Bool
  | [] => false
  | (k, v) :: r => k.hasLongInteger || v.hasLongInteger || anyLongEntry r

end

end CssMargin.Value
