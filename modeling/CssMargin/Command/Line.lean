/-
# The command line

First come the options for logging, then the name of a command, then what the command needs.  The
three are looked at one after the other, since what the options for logging say has an effect
before the rest is looked at.
-/
import CssMargin.Command.Option
namespace CssMargin.Command

/-- The commands. -/
inductive Name where
  /-- Expand one shorthand. -/
  | expand
  /-- Expand the shorthands of a file. -/
  | expandFile
  /-- Check a file. -/
  | validate
  /-- Show the tables. -/
  | tables
deriving DecidableEq, Repr

namespace Name

/-- All commands. -/
def all : List Name := [.expand, .expandFile, .validate, .tables]

/-- The name of a command. -/
def text : Name → String
  | .expand => "expand"
  | .expandFile => "expand-file"
  | .validate => "validate"
  | .tables => "tables"

/-- The command with a name. -/
def ofText? (t : Text) : Option Name := all.find? fun n => t == n.text

/-- The options of a command, apart from that for help. -/
def options : Name → OptionTable
  | .expand => ⟨["--important", "--no-important"], ["--origin", "--format", "--config"]⟩
  | .expandFile => ⟨[], ["--out", "--format", "--config"]⟩
  | .validate => ⟨[], ["--format"]⟩
  | .tables => ⟨[], []⟩

end Name

/-- The options before the name of a command, apart from that for help. -/
def rootOptions : OptionTable := ⟨[], ["--log-level", "--log-format"]⟩

/-- A command line up to the name of the command. -/
structure Head where
  /-- The level for logging. -/
  logLevel : Text
  /-- The format for logging. -/
  logFormat : Text
  /-- The command. -/
  name : Name
  /-- The rest. -/
  rest : List Text
deriving DecidableEq, Repr

/-- Read the options for logging and the name of the command.  An unknown name that looks like an
option is reported as such. -/
def readHead (args : List Text) : Except UsageFault Head :=
  if args.isEmpty then .error .noArguments
  else do
    let line ← sortArguments rootOptions false args
    match line.others with
    | [] => .error .other
    | a :: rest =>
      match Name.ofText? a with
      | some name =>
        .ok ⟨(line.value? "--log-level").getD "WARNING", (line.value? "--log-format").getD "text",
          name, rest⟩
      | none => do
        let _ ← sortArguments rootOptions false (a :: rest)
        .error .other

/-- What a command is to do. -/
inductive Task where
  /-- Expand one shorthand. -/
  | expand (values : List Text) (important : Option Bool) (origin format config : Option Text)
  /-- Expand the shorthands of a file. -/
  | expandFile (path : Text) (out format config : Option Text)
  /-- Check a file. -/
  | validate (path format : Text)
  /-- Show the tables. -/
  | tables
deriving DecidableEq, Repr

/-- The one argument of a command. -/
def onlyArgument : List Text → Except UsageFault Text
  | [] => .error .missingParameter
  | [a] => .ok a
  | _ :: _ :: _ => .error .other

/-- Read what a command is to do. -/
def readTask (name : Name) (args : List Text) : Except UsageFault Task := do
  let line ← sortArguments name.options true args
  match name with
  | .expand =>
    if line.others.isEmpty then .error .missingParameter
    else .ok (.expand line.others
      ((line.lastFlag? ["--important", "--no-important"]).map (· == ("--important" : Text)))
      (line.value? "--origin") (line.value? "--format") (line.value? "--config"))
  | .expandFile =>
    .ok (.expandFile (← onlyArgument line.others) (line.value? "--out") (line.value? "--format")
      (line.value? "--config"))
  | .validate =>
    .ok (.validate (← onlyArgument line.others) ((line.value? "--format").getD "text"))
  | .tables => if line.others.isEmpty then .ok .tables else .error .other

@[simp] theorem Name.ofText?_text (n : Name) : Name.ofText? n.text = some n := by
  cases n <;> decide

end CssMargin.Command
