/-
# Document values

What a document holds once its notation is forgotten: the values that a YAML or JSON text can
stand for.  A mapping keeps its entries in the order of the text, and no two of its keys are the
same; two keys are the same when they are equal as values, so that the number one, the fraction
one and the truth value `true` are one key.
-/
import CssMargin.Calendar
import CssMargin.Text.Literal
namespace CssMargin

/-- A value of a document. -/
inductive Value where
  /-- No value. -/
  | null
  /-- A truth value. -/
  | bool (b : Bool)
  /-- An integer of any size. -/
  | int (n : Int)
  /-- A number with a fraction. -/
  | float (x : Binary64)
  /-- A text. -/
  | text (s : Text)
  /-- Raw bytes. -/
  | bytes (b : List UInt8)
  /-- A day. -/
  | date (d : Date)
  /-- A moment. -/
  | moment (m : Moment)
  /-- A sequence. -/
  | list (items : List Value)
  /-- A mapping. -/
  | map (entries : List (Value × Value))
  /-- A set. -/
  | set (items : List Value)
deriving Inhabited

namespace Value

/-- The number that a value is equal to, when it is a number or a truth value. -/
def asInt? : Value → Option Int
  | .bool b => some (if b then 1 else 0)
  | .int n => some n
  | .float x => x.toInt?
  | _ => none

/-- Whether two values are the same key.  Numbers are compared by what they are equal to. -/
def sameKey (a b : Value) : Bool :=
  match a, b with
  | .null, .null => true
  | .text s, .text t => s == t
  | .bytes s, .bytes t => s == t
  | .date d, .date e => d == e
  | .moment m, .moment n => m.same n
  | .float x, .float y => x != .nan && x == y || (x.toInt?.isSome && x.toInt? == y.toInt?)
  | a, b => a.asInt?.isSome && a.asInt? == b.asInt?

/-- Put an entry into a mapping.  A key that is there already keeps its place and takes the new
value. -/
def insert (k v : Value) : List (Value × Value) → List (Value × Value)
  | [] => [(k, v)]
  | e :: r => if e.1.sameKey k then (e.1, v) :: r else e :: insert k v r

/-- The entries of a mapping that is filled in the order of a list. -/
def ofEntries (es : List (Value × Value)) : List (Value × Value) :=
  es.foldl (fun acc e => insert e.1 e.2 acc) []

/-- Whether a value is the given text. -/
def isText (s : String) : Value → Bool
  | .text t => t == s
  | _ => false

/-- The value of a text key. -/
def lookup? (k : String) : List (Value × Value) → Option Value
  | [] => none
  | e :: r => if e.1.isText k then some e.2 else lookup? k r

/-- The value of a text key in a value that is a mapping. -/
def get? (k : String) : Value → Option Value
  | .map es => lookup? k es
  | _ => none

@[simp] theorem isText_text (s : String) (t : Text) : isText s (.text t) = (t == s) := rfl

@[simp] theorem lookup?_nil (k : String) : lookup? k [] = none := rfl

theorem lookup?_cons (k : String) (e : Value × Value) (r : List (Value × Value)) :
    lookup? k (e :: r) = if e.1.isText k then some e.2 else lookup? k r := rfl

@[simp] theorem sameKey_text (s t : Text) : sameKey (.text s) (.text t) = (s == t) := rfl

end Value

end CssMargin
