/-
# A run of a command

A run reads and writes the disk, prints on two outputs and logs.  All this is kept in a session;
what happened before a run stops stays in it.  A run stops because the command line is not
understood, with an exit code after its problems were printed, or because of a failure that nobody
expected.  The standard error shows halves of surrogate pairs as escapes; on the standard output
they are such a failure.
-/
import CssMargin.Command.Option
import CssMargin.Disk.Text
import CssMargin.Log.Logger
import CssMargin.Problem
import CssMargin.Text.Terminal
namespace CssMargin.Command

/-- What a run finds and cannot change. -/
structure Surroundings where
  /-- The time. -/
  time : Moment
  /-- The settings file that is used if the command line names none. -/
  settingsFile : Option Text
  /-- What is said about a text that is not YAML. -/
  say : List Char → String

/-- What a run changes. -/
structure Session where
  /-- The disk. -/
  disk : Disk
  /-- The logger. -/
  logger : Log.Logger
  /-- What was printed on the standard output. -/
  output : String
  /-- What was printed on the standard error. -/
  errors : String

/-- Why a run stops. -/
inductive Halt where
  /-- The command line is not understood. -/
  | usage (f : UsageFault)
  /-- Problems were printed; the exit code says of which stage. -/
  | exit (code : Nat)
  /-- An unexpected failure. -/
  | failure (f : Failure)
deriving DecidableEq, Repr

/-- A step of a run. -/
abbrev Run := ExceptT Halt (StateM Session)

/-- A session in which nothing has happened. -/
def Session.start (disk : Disk) : Session := ⟨disk, Log.Logger.fresh, "", ""⟩

namespace Run

/-- Stop because of a failure. -/
def fail {α : Type} (f : Failure) : Run α := throw (.failure f)

/-- Print a text; colour codes are left out. -/
def print (t : Text) : Run Unit :=
  match (Text.plain t).whole with
  | .error x => fail (.stray x)
  | .ok s => modify fun x => { x with output := x.output ++ s }

/-- Print a line. -/
def printLine (t : Text) : Run Unit := print (t ++ "\n")

/-- Print problems in the order of reports, a line each, on the standard error. -/
def report (ps : List Problem) : Run Unit :=
  modify fun x => { x with
    errors := x.errors ++ String.join ((Problem.sort ps).map fun p =>
      (Text.plain (p.text ++ "\n")).escaped) }

/-- Print problems and stop. -/
def stop {α : Type} (code : Nat) (ps : List Problem) : Run α := do
  report ps
  throw (.exit code)

/-- Log an event. -/
def log (x : Surroundings) (e : Log.Event) : Run Unit :=
  modify fun s => { s with errors := s.errors ++ s.logger.write (e.record x.time) }

end Run

end CssMargin.Command
