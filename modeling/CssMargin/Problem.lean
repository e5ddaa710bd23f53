/-
# Problems

Everything that can be wrong with a document, a setting or an argument is reported in one form: a
code, a message, and where it is, in which file and at which place of the file.  Reports are
printed in the order of file, place and code; the order of the characters is that of their
positions in Unicode, and problems that agree in all three keep their order.
-/
import CssMargin.Json.Basic
namespace CssMargin

/-- Which part of the work found a problem. -/
inductive Stage where
  /-- The command line. -/
  | command
  /-- Reading a file. -/
  | load
  /-- Checking a document. -/
  | validation
deriving DecidableEq, Repr

/-- The name of a stage in reports. -/
def Stage.name : Stage → String
  | .command => "cli"
  | .load => "load"
  | .validation => "validate"

/-- A problem as it is reported. -/
structure Problem where
  /-- The stage that found it. -/
  stage : Stage
  /-- The code of its kind. -/
  code : String
  /-- The message. -/
  message : Text
  /-- The file it is in. -/
  file : Option Text
  /-- The place in the file, or the option of the command line. -/
  place : Option String
deriving DecidableEq, Repr

namespace Problem

/-- The place as a text. -/
def placeText (p : Problem) : Option Text := p.place.map fun s => s

/-- The file and the place, as far as they are known and not empty, with a colon between. -/
def location (p : Problem) : Text :=
  match [p.file, p.placeText].filterMap (·.filter (· ≠ ("" : Text))) with
  | [] => "<input>"
  | parts => Text.join ":" parts

/-- A problem in one line. -/
def text (p : Problem) : Text := p.location ++ ": " ++ p.code ++ ": " ++ p.message

/-- A text or nothing. -/
def optionalText : Option Text → Json
  | some t => .text t
  | none => .null

/-- A problem as an object. -/
def item (p : Problem) : Json :=
  .object [("code", .text p.code), ("message", .text p.message), ("file", optionalText p.file),
    ("path", optionalText p.placeText), ("severity", .text "error"), ("source", .text p.stage.name)]

/-- What problems are ordered by. -/
def key (p : Problem) : List Nat × String × String :=
  ((p.file.getD "").positions, p.place.getD "", p.code)

/-- Lexicographic order of keys. -/
def keyLe (a b : List Nat × String × String) : Bool :=
  decide (a.1 < b.1) || a.1 == b.1 &&
    (decide (a.2.1 < b.2.1) || a.2.1 == b.2.1 && decide (a.2.2 ≤ b.2.2))

/-- Whether one problem may stand before another. -/
def le (p q : Problem) : Bool := keyLe p.key q.key

/-- Problems in the order of reports. -/
def sort (ps : List Problem) : List Problem := ps.mergeSort le

/-- The order of reports, as positions in the list given. -/
def order (ps : List Problem) : List Nat :=
  (ps.zipIdx.mergeSort fun a b => le a.1 b.1).map (·.2)

theorem sort_perm (ps : List Problem) : (sort ps).Perm ps := List.mergeSort_perm _ _

@[simp] theorem length_sort (ps : List Problem) : (sort ps).length = ps.length :=
  (sort_perm ps).length_eq

end Problem

end CssMargin
