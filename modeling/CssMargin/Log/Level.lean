/-
# Levels of log records

How weighty a record is is a number.  A few numbers have names, and some of these have a second
name, which is understood but never written.
-/
import CssMargin.Text.Case
import CssMargin.Text.Literal
namespace CssMargin.Log

/-- The level of records that help to find faults. -/
def debugLevel : Int := 10

/-- The level of records that say what was done. -/
def infoLevel : Int := 20

/-- The level of warnings. -/
def warningLevel : Int := 30

/-- The level of a logger that has none of its own. -/
def unsetLevel : Int := 0

/-- The levels with their names. -/
def levelNames : List (Int × String) :=
  [(50, "CRITICAL"), (40, "ERROR"), (warningLevel, "WARNING"), (infoLevel, "INFO"),
    (debugLevel, "DEBUG"), (unsetLevel, "NOTSET")]

/-- The second names of levels. -/
def secondNames : List (Int × String) := [(50, "FATAL"), (warningLevel, "WARN")]

/-- How a level is written in log lines. -/
def levelText (n : Int) : String := (levelNames.lookup n).getD ("Level " ++ toString n)

/-- A name that no level has, in capital letters. -/
structure UnknownLevel where
  /-- The name. -/
  name : Text
deriving DecidableEq, Repr

/-- The report of an unknown level. -/
def UnknownLevel.message (u : UnknownLevel) : String := "Unknown level: " ++ Text.literal u.name

/-- A text in capital letters. -/
def capitals (t : Text) : Text := t.map fun s => String.ofList (Text.upper s.toList)

/-- The level with a name, in any letter case. -/
def levelOf (t : Text) : Except UnknownLevel Int :=
  match (levelNames ++ secondNames).find? fun x => capitals t == x.2 with
  | some (n, _) => .ok n
  | none => .error ⟨capitals t⟩

end CssMargin.Log
