/-
# Options

The arguments of a command are options and others.  An option starts with a hyphen and is not a
hyphen alone; it is a flag, or it has a value, which follows after an equals sign or as the next
argument.  Two hyphens end the options, and all that follows are other arguments.  Options may be
mixed with other arguments, or they end at the first of these.

The option for help, which every command has besides and which ends a run at once, is left out: it
counts as unknown here.
-/
import CssMargin.Text.Basic
namespace CssMargin.Command

/-- What can be wrong with the use of the command line. -/
inductive UsageFault where
  /-- There are no arguments at all. -/
  | noArguments
  /-- An option is unknown. -/
  | noSuchOption
  /-- An option lacks its value, or a flag has one. -/
  | badOptionUsage
  /-- A needed argument is missing. -/
  | missingParameter
  /-- There is no command, an unknown one, or there are too many arguments. -/
  | other
deriving DecidableEq, Repr

/-- The options that are known. -/
structure OptionTable where
  /-- The flags. -/
  flags : List Text
  /-- The options with a value. -/
  valued : List Text
deriving DecidableEq, Repr

/-- Arguments that have been sorted. -/
structure Sorted where
  /-- The flags. -/
  flags : List Text
  /-- The options with their values. -/
  values : List (Text × Text)
  /-- The other arguments. -/
  others : List Text
deriving DecidableEq, Repr

namespace Sorted

/-- Put a flag in front. -/
def addFlag (name : Text) (s : Sorted) : Sorted := { s with flags := name :: s.flags }

/-- Put an option with a value in front. -/
def addValue (name value : Text) (s : Sorted) : Sorted :=
  { s with values := (name, value) :: s.values }

/-- Put another argument in front. -/
def addOther (a : Text) (s : Sorted) : Sorted := { s with others := a :: s.others }

/-- The value of an option; of several the last counts. -/
def value? (s : Sorted) (name : Text) : Option Text :=
  (s.values.reverse.find? (·.1 == name)).map (·.2)

/-- The last of the given flags that is there. -/
def lastFlag? (s : Sorted) (names : List Text) : Option Text :=
  s.flags.reverse.find? (names.contains ·)

end Sorted

/-- Whether an argument is an option. -/
def isOption (a : Text) : Bool :=
  match a.points with
  | .char '-' :: _ :: _ => true
  | _ => false

/-- An option cut at its first equals sign. -/
def splitValue (a : Text) : Text × Option Text :=
  (Text.ofPoints (a.points.takeWhile (· ≠ .char '=')),
    match a.points.dropWhile (· ≠ .char '=') with
    | [] => none
    | _ :: v => some (Text.ofPoints v))

/-- Sort arguments.  The first fault from the left is reported. -/
def sortArguments (t : OptionTable) (mixed : Bool) : List Text → Except UsageFault Sorted
  | [] => .ok ⟨[], [], []⟩
  | a :: r =>
    if a = "--" then .ok ⟨[], [], r⟩
    else if isOption a then
      let (name, value) := splitValue a
      if t.valued.contains name then
        match value, r with
        | some v, r => (sortArguments t mixed r).map (·.addValue name v)
        | none, v :: r => (sortArguments t mixed r).map (·.addValue name v)
        | none, [] => .error .badOptionUsage
      else if t.flags.contains name then
        if value.isSome then .error .badOptionUsage
        else (sortArguments t mixed r).map (·.addFlag name)
      else .error .noSuchOption
    else if mixed then (sortArguments t mixed r).map (·.addOther a)
    else .ok ⟨[], [], a :: r⟩

/-- What follows two hyphens is not looked at. -/
@[simp] theorem sortArguments_end (t : OptionTable) (mixed : Bool) (r : List Text) :
    sortArguments t mixed ("--" :: r) = .ok ⟨[], [], r⟩ := by
  rw [sortArguments, if_pos rfl]

end CssMargin.Command
