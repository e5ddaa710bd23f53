/-
# Results

The result of an expansion is a list of declarations, written as a YAML document, as an object for
a JSON text, or as lines of CSS.  In each form a declaration has its property, its value, its
importance and, except in CSS, its origin.  An accepted document is summed up by how many shorthands
it has, in all and by number of values.
-/
import CssMargin.Json.Basic
import CssMargin.Shorthand.Basic
import CssMargin.Yaml.Scalar.Writer
namespace CssMargin

/-! ### Listings -/

/-- A declaration as an object. -/
def Declaration.item (d : Declaration) : Json :=
  .object [("property", .text d.name), ("value", .text d.value), ("important", .bool d.important),
    ("origin", .text d.origin)]

/-- The spelling of a truth value. -/
def boolText (b : Bool) : String := if b then "true" else "false"

/-- A field of a declaration in YAML: what stands before the value, and the value as a scalar that
is continued at the fourth column. -/
def fieldLine (head : String) (value : Text) : List Char :=
  head.toList ++ Yaml.writeScalar 4 head.length value ++ ['\n']

/-- A declaration in YAML. -/
def Declaration.yaml (d : Declaration) : List Char :=
  fieldLine "- property: " d.name ++ fieldLine "  value: " d.value ++
    ("  important: " ++ boolText d.important ++ "\n").toList ++ fieldLine "  origin: " d.origin

/-- A listing in YAML. -/
def listingYaml (ds : List Declaration) : List Char :=
  match ds with
  | [] => "declarations: []\n".toList
  | ds => "declarations:\n".toList ++ ds.flatMap Declaration.yaml

/-- A declaration as a line of CSS. -/
def Declaration.cssLine (d : Declaration) : Text :=
  d.name ++ ": " ++ d.value ++ (if d.important then " !important" else "")

/-! ### Summaries -/

/-- How many shorthands have so many values. -/
def countArity (shorthands : List Shorthand) (n : Nat) : Nat :=
  shorthands.countP fun s => s.values.length == n

/-- The summary in one line, with every number of values that a shorthand can have. -/
def summaryText (shorthands : List Shorthand) : String :=
  let parts := Arity.all.map fun a =>
    toString a.toNat ++ "-value=" ++ toString (countArity shorthands a.toNat)
  "OK: " ++ toString shorthands.length ++ " declarations (" ++ ", ".intercalate parts ++ ")"

/-- The numbers of values that occur, each of them once, in increasing order. -/
def occurringArities (shorthands : List Shorthand) : List Nat :=
  (shorthands.map (·.values.length)).eraseDups.mergeSort

/-- The summary as an object, with the numbers of values that occur. -/
def summaryItem (shorthands : List Shorthand) : Json :=
  let counts := (occurringArities shorthands).map fun n =>
    (((toString n : String) : Text), Json.int (countArity shorthands n))
  .object [("declaration_count", .int shorthands.length), ("arity_counts", .object counts)]

end CssMargin
