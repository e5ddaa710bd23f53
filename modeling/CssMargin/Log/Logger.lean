/-
# The logger

There is one logger for everything.  At first it has no level and writes nowhere; warnings are then
shown as bare messages.  Once it is set up it writes the records of its level and above, one line
each, as text or as JSON objects.  A record whose message cannot be made is not written.

A few things that happen in a run are logged: that a shorthand was not expanded because of the
number of its values, and what was expanded.
-/
import CssMargin.Log.Record
namespace CssMargin.Log

/-- The formats of log lines: text, or JSON objects. -/
inductive LogFormat where
  | text
  | json
deriving DecidableEq, Repr

namespace LogFormat

/-- All formats. -/
def all : List LogFormat := [.text, .json]

/-- The name of a format. -/
def name : LogFormat → String
  | .text => "text"
  | .json => "json"

/-- The format that is used for a name; an unknown name stands for text. -/
def ofName (t : Text) : LogFormat := if t = "json" then .json else .text

/-- A record in a format, as the standard error shows it. -/
def line (f : LogFormat) (r : Record) : Except TemplateFault String :=
  match f with
  | .text => Text.escaped <$> r.textLine
  | .json => r.jsonLine

end LogFormat

/-- The state of the logger. -/
structure Logger where
  /-- The level. -/
  level : Int
  /-- Whether records are handed on to the surroundings. -/
  propagates : Bool
  /-- The formats in which records are written. -/
  handlers : List LogFormat
deriving DecidableEq, Repr

namespace Logger

/-- A logger before it is set up. -/
def fresh : Logger := ⟨unsetLevel, true, []⟩

/-- Set the logger up.  With an unknown level it stays as it is. -/
def setUp (level format : Text) : Except UnknownLevel Logger := do
  .ok ⟨← levelOf level, false, [LogFormat.ofName format]⟩

/-- The level from which on records are written. -/
def threshold (l : Logger) : Int := if l.level = unsetLevel then warningLevel else l.level

/-- A line of output, nothing if it could not be made. -/
def outputLine : Except TemplateFault String → String
  | .ok s => s ++ "\n"
  | .error _ => ""

/-- What is written for a record. -/
def write (l : Logger) (r : Record) : String :=
  if r.level < l.threshold then ""
  else
    match l.handlers with
    | [] => if r.level < warningLevel then "" else outputLine (Text.escaped <$> r.bareLine)
    | handlers => String.join (handlers.map fun f => outputLine (f.line r))

/-- Nothing is written for a record below the level. -/
theorem write_of_lt {l : Logger} {r : Record} (h : r.level < l.threshold) : l.write r = "" := by
  simp [write, h]

end Logger

/-! ### Events -/

/-- The name of the logger of the command line. -/
def commandName : String := "margin_shorthand.cli"

/-- The name of the logger of the expansion. -/
def expansionName : String := "margin_shorthand.core.expand.expand_margin"

/-- What is logged. -/
inductive Event where
  /-- A shorthand with an unsupported number of values was not expanded. -/
  | notExpanded (arity : Nat)
  /-- The shorthand of the command line was expanded. -/
  | expanded (arity : Nat)
  /-- A shorthand of a file is expanded. -/
  | expanding (index arity : Nat)
  /-- The shorthands of a file were expanded. -/
  | fileExpanded (count : Nat) (path : Text)
deriving DecidableEq, Repr

/-- The record of an event. -/
def Event.record (time : Moment) : Event → Record
  | .notExpanded arity =>
    ⟨time, debugLevel, expansionName, "margin shorthand with %d values not expanded", [.int arity],
      [("arity", .int arity)], none⟩
  | .expanded arity =>
    ⟨time, infoLevel, commandName, "expanded margin with %d values", [.int arity],
      [("arity", .int arity)], none⟩
  | .expanding index arity =>
    ⟨time, debugLevel, commandName, "declarations[%d]: margin with %d values",
      [.int index, .int arity], [("index", .int index), ("arity", .int arity)], none⟩
  | .fileExpanded count path =>
    ⟨time, infoLevel, commandName, "expanded %d shorthands from %s", [.int count, .text path], [],
      none⟩

end CssMargin.Log
