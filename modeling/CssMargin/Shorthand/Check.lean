/-
# Checking a document

An entry of a document is checked on its own.  Its form, its property, its values and their number
are looked at in this order, and the first fault ends the check of the entry; importance and
origin are then looked at both.  A document is accepted when no entry has a fault; otherwise all
faults of all entries are reported.
-/
import CssMargin.Problem
import CssMargin.Shorthand.Basic
namespace CssMargin

/-- The one property that has a table. -/
def marginProperty : String := "margin"

/-- What can be wrong with an entry. -/
inductive EntryFault where
  /-- It is not a mapping. -/
  | form
  /-- Its property is not supported. -/
  | property
  /-- It has no values. -/
  | valuesMissing
  /-- Its values are not texts in a list. -/
  | valuesType
  /-- It has too few or too many values. -/
  | arity (count : Nat)
  /-- Its importance is not a truth value. -/
  | important
  /-- Its origin is unknown. -/
  | origin
deriving DecidableEq, Repr

namespace EntryFault

/-- The code of a fault. -/
def code : EntryFault → String
  | .form | .valuesType | .important => "E_INVALID_TYPE"
  | .property => "E_UNSUPPORTED_PROPERTY"
  | .valuesMissing => "E_REQUIRED_FIELD"
  | .arity _ => "E_INVALID_ARITY"
  | .origin => "E_INVALID_ENUM"

/-- The field that a fault is in. -/
def field? : EntryFault → Option String
  | .form => none
  | .property => some "property"
  | .valuesMissing | .valuesType | .arity _ => some "values"
  | .important => some "important"
  | .origin => some "origin"

/-- Names in quotes, as a list. -/
def listing (names : List String) : String :=
  "[" ++ ", ".intercalate (names.map fun n : String => Text.literal n) ++ "]"

/-- The message about a number of values. -/
def arityMessage (count : Nat) : String :=
  "margin takes 1 to 4 values, got " ++ toString count

/-- The message of a fault. -/
def message : EntryFault → String
  | .form => "declaration must be an object"
  | .property => "property must be one of " ++ listing [marginProperty]
  | .valuesMissing => "values is required"
  | .valuesType => "values must be an array of strings"
  | .arity count => arityMessage count
  | .important => "important must be a boolean"
  | .origin => "origin must be one of " ++ listing (Origin.all.map Origin.name)

/-- The place of a fault in the entry at a position. -/
def place (index : Nat) (f : EntryFault) : String :=
  "declarations[" ++ toString index ++ "]" ++ (f.field?.map ("." ++ ·)).getD ""

/-- The report of a fault in the entry at a position. -/
def report (file : Option Text) (index : Nat) (f : EntryFault) : Problem :=
  ⟨.validation, f.code, f.message, file, some (f.place index)⟩

end EntryFault

/-- Whether a value names the supported property, in any letter case and between any blanks. -/
def isSupportedProperty : Value → Bool
  | .text t => t.isWord marginProperty
  | _ => false

/-- The texts in a list that holds nothing else. -/
def texts? : List Value → Option (List Text)
  | [] => some []
  | .text t :: r => (texts? r).map (t :: ·)
  | _ :: _ => none

/-- The values of an entry. -/
def entryValues (fields : List (Value × Value)) : Except EntryFault (List Text) :=
  match Value.lookup? "values" fields with
  | none | some .null => .error .valuesMissing
  | some (.list items) =>
    match texts? items with
    | none => .error .valuesType
    | some ts => if (Arity.ofNat? ts.length).isSome then .ok ts else .error (.arity ts.length)
  | some _ => .error .valuesType

/-- The truth value that a value is. -/
def asBool? : Value → Option Bool
  | .bool b => some b
  | _ => none

/-- The origin that a value names. -/
def asOrigin? : Value → Option Origin
  | .text t => Origin.ofName? t
  | _ => none

/-- Check an entry: the shorthand that it says, or its faults. -/
def checkEntry (defaults : EntryDefaults) (index : Nat) :
    Value → Except (List EntryFault) Shorthand
  | .map fields =>
    if isSupportedProperty ((Value.lookup? "property" fields).getD (.text marginProperty)) then
      match entryValues fields with
      | .error f => .error [f]
      | .ok values =>
        let important := asBool? ((Value.lookup? "important" fields).getD defaults.important)
        let origin := asOrigin? ((Value.lookup? "origin" fields).getD defaults.origin)
        match important, origin with
        | some i, some o => .ok ⟨marginProperty, values, i, o, index⟩
        | none, some _ => .error [.important]
        | some _, none => .error [.origin]
        | none, none => .error [.important, .origin]
    else .error [.property]
  | _ => .error [.form]

/-- The faults of an entry. -/
def entryFaults (defaults : EntryDefaults) (index : Nat) (entry : Value) : List EntryFault :=
  match checkEntry defaults index entry with
  | .ok _ => []
  | .error fs => fs

/-- The shorthands that entries say, leaving out those with faults. -/
def entryShorthands (defaults : EntryDefaults) (entries : List (Value × Nat)) : List Shorthand :=
  entries.filterMap fun e => (checkEntry defaults e.2 e.1).toOption

/-- The reports of all faults of entries. -/
def entryReports (defaults : EntryDefaults) (file : Option Text) (entries : List (Value × Nat)) :
    List Problem :=
  entries.flatMap fun e => (entryFaults defaults e.2 e.1).map (EntryFault.report file e.2)

/-- The report of a document without a list of entries. -/
def missingDeclarations (file : Option Text) : Problem :=
  ⟨.validation, "E_REQUIRED_FIELD", "declarations is required and must be an array", file,
    some "declarations"⟩

/-- Check a document: all its shorthands, or all its problems in the order of reports. -/
def Document.check (d : Document) (defaults : EntryDefaults) :
    Except (List Problem) (List Shorthand) :=
  match d.declarations with
  | .list entries =>
    match entryReports defaults d.file entries.zipIdx with
    | [] => .ok (entryShorthands defaults entries.zipIdx)
    | reports => .error (Problem.sort reports)
  | _ => .error [missingDeclarations d.file]

end CssMargin
