/-
# What the commands do

`expand` expands the shorthand that the arguments make up, `expand-file` all shorthands of a file,
`validate` only checks a file, and `tables` shows which value goes where.  Exit code 1 is for files
that cannot be loaded, 2 for everything else that is wrong.
-/
import CssMargin.Command.Line
import CssMargin.Command.Session
import CssMargin.Result
import CssMargin.Settings.Load
import CssMargin.Shorthand.Load
namespace CssMargin.Command

/-- Names to choose from, as messages list them. -/
def choices (names : List String) : String := " (choose one of: " ++ ", ".intercalate names ++ ")"

/-- The problem of an unknown format, with a code and the formats there are. -/
def unknownFormat (code : String) (format : Text) (names : List String) : Problem :=
  ⟨.validation, code, "unknown format: " ++ format ++ choices names, none, some "format"⟩

/-- The problem of an unknown format of a listing. -/
def unknownListingFormat (format : Text) : Problem :=
  unknownFormat "E_EXPAND_UNKNOWN_FORMAT" format (OutputFormat.all.map OutputFormat.name)

/-! ### Settings -/

/-- The settings file: the one of the command line if it has a name, else that of the
surroundings. -/
def settingsName (x : Surroundings) (config : Option Text) : Option Text :=
  config.filter (· ≠ ("" : Text)) <|> x.settingsFile

/-- The settings in force. -/
def settingsInForce (x : Surroundings) (config : Option Text) : Run Settings := do
  let file := settingsName x config
  match loadSettings (← get).disk file with
  | .ok s => pure s
  | .error (.fault f) =>
    Run.stop 2 [⟨.validation, "E_CONFIG_FILE_INVALID", f.message x.say, file, some "config"⟩]
  | .error (.failure (.read (.disk (.refused .noEntry _)))) =>
    Run.stop 1 [⟨.load, "E_CONFIG_FILE_NOT_FOUND", "settings file not found: " ++ file.getD "",
      none, some "config"⟩]
  | .error (.failure (.read (.disk (.refused why path)))) =>
    Run.stop 1 [⟨.load, "E_CONFIG_FILE_READ", (DiskFault.refused why path).message, file,
      some "config"⟩]
  | .error (.failure f) => Run.fail f

/-! ### Results -/

/-- The result of a command as an object. -/
def resultItem (name : Name) (ok : Bool) (members : List (Text × Json)) : Json :=
  .object (([("tool", .text "shorthand"), ("command", .text name.text), ("ok", .bool ok)] :
    List (Text × Json)) ++ members)

/-- Print an object over several lines. -/
def printItem (j : Json) : Run Unit := Run.printLine (Json.write .result j)

/-- Print a listing. -/
def printListing (name : Name) (format : OutputFormat) (ds : List Declaration) : Run Unit :=
  match format with
  | .json =>
    printItem (resultItem name true [("declarations", .list (ds.map Declaration.item))])
  | .yaml => Run.print (String.ofList (listingYaml ds) : String)
  | .text => ds.forM fun d => Run.printLine d.cssLine

/-- Write a listing to a file, whose directory is made if it is missing. -/
def writeListing (out : Text) (ds : List Declaration) : Run Unit := do
  let p := Path.ofText out
  if p.parent.text ≠ "." then
    let (r, d) := (← get).disk.makeDirectories (p.parts.length + 1) p.parent
    modify fun s => { s with disk := d }
    match r with
    | .ok () => pure ()
    | .error f => Run.fail (.read (.disk f))
  match (← get).disk.writeText p (listingYaml ds) with
  | .ok d => modify fun s => { s with disk := d }
  | .error f => Run.fail (.read (.disk f))

/-! ### Commands -/

/-- The problems of an expansion: an unknown format, an unknown origin, too many values. -/
def expandProblems (format origin : Text) (count : Nat) : List Problem :=
  (if (OutputFormat.ofName? format).isSome then [] else [unknownListingFormat format]) ++
  (if (Origin.ofName? origin).isSome then [] else
    [⟨.validation, EntryFault.origin.code,
      "unknown origin: " ++ origin ++ choices (Origin.all.map Origin.name), none,
      some "origin"⟩]) ++
  (if (Arity.ofNat? count).isSome then [] else
    [⟨.validation, (EntryFault.arity count).code, EntryFault.arityMessage count, none,
      some "values"⟩])

/-- Expand one shorthand. -/
def performExpand (x : Surroundings) (values : List Text) (important : Option Bool)
    (origin format config : Option Text) : Run Unit := do
  let settings ← settingsInForce x config
  let origin := origin.getD settings.origin.name
  let important := important.getD settings.important
  let format := format.getD settings.format.name
  match expandProblems format origin values.length, OutputFormat.ofName? format with
  | [], some f =>
    let ds := expandMargin values important origin
    Run.log x (.expanded values.length)
    printListing .expand f ds
  | ps, _ => Run.stop 2 ps

/-- Load a document. -/
def load (path : Text) : Run (Except LoadFault Document) := do
  match loadDocument (← get).disk (Path.ofText path) with
  | .ok d => pure (.ok d)
  | .error (.fault f) => pure (.error f)
  | .error (.failure f) => Run.fail f

/-- The report of a fault in the file at a path. -/
def loadProblem (x : Surroundings) (path : Text) (f : LoadFault) : Problem :=
  f.report x.say (Path.ofText path).text

/-- Expand the shorthands of a file. -/
def performExpandFile (x : Surroundings) (path : Text) (out format config : Option Text) :
    Run Unit := do
  let settings ← settingsInForce x config
  let format := format.getD settings.format.name
  match OutputFormat.ofName? format with
  | none => Run.stop 2 [unknownListingFormat format]
  | some f =>
    match ← load path with
    | .error e => Run.stop 1 [loadProblem x path e]
    | .ok d =>
      match d.check ⟨.text settings.origin.name, .bool settings.important⟩ with
      | .error ps => Run.stop 2 ps
      | .ok shorthands =>
        shorthands.forM fun s => Run.log x (.expanding s.index s.values.length)
        let ds := shorthands.flatMap Shorthand.expand
        Run.log x (.fileExpanded shorthands.length path)
        -- a file is written in YAML, whatever the format
        match out with
        | some out =>
          writeListing out ds
          Run.printLine
            (("OK: wrote " ++ toString ds.length ++ " declarations to " : String) ++ out)
        | none => printListing .expandFile f ds

/-- The formats of the result of a check. -/
def checkFormats : List String := ["text", "json"]

/-- Print the result of a check as an object. -/
def printCheck (ps : List Problem) (summary : Json) : Run Unit :=
  printItem (resultItem .validate ps.isEmpty [("error_count", .int ps.length),
    ("errors", .list (ps.map Problem.item)), ("summary", summary)])

/-- Stop with the problems that a check has found. -/
def stopCheck (format : Text) (code : Nat) (ps : List Problem) : Run Unit := do
  if format = "json" then
    printCheck ps .null
    throw (.exit code)
  else Run.stop code ps

/-- Check a file. -/
def performValidate (x : Surroundings) (path format : Text) : Run Unit := do
  if checkFormats.any fun name => format == name then
    match ← load path with
    | .error e => stopCheck format 1 [loadProblem x path e]
    | .ok d =>
      match d.check .standard with
      | .error ps => stopCheck format 2 ps
      | .ok shorthands =>
        if format = "json" then printCheck [] (summaryItem shorthands)
        else Run.printLine (summaryText shorthands)
  else Run.stop 2 [unknownFormat "E_VALIDATE_UNKNOWN_FORMAT" format checkFormats]

/-- The table of an arity in one line. -/
def tableLine (a : Arity) : String :=
  let pairs := a.table.map fun p => p.1.longhand ++ "=v" ++ toString (p.2 + 1)
  "- " ++ toString a.toNat ++ ": " ++ ", ".intercalate pairs

/-- Show the tables. -/
def performTables : Run Unit := do
  Run.printLine "Expansion tables:"
  Arity.all.forM fun a => Run.printLine (tableLine a)

/-- Perform a task. -/
def perform (x : Surroundings) : Task → Run Unit
  | .expand values important origin format config =>
    performExpand x values important origin format config
  | .expandFile path out format config => performExpandFile x path out format config
  | .validate path format => performValidate x path format
  | .tables => performTables

/-! ### The whole run -/

/-- The levels that the command line accepts. -/
def commandLevels : List String := ["DEBUG", "INFO", "WARNING", "ERROR"]

/-- Set the logger up as the command line says. -/
def setUpLogging (level format : Text) : Run Unit := do
  if commandLevels.any (fun name => Log.capitals level == name) &&
      Log.LogFormat.all.any (fun f => format == f.name) then
    match Log.Logger.setUp level format with
    | .ok l => modify fun s => { s with logger := l }
    | .error _ => pure ()
  else
    Run.stop 2 [⟨.validation, "E_LOGGING_INVALID",
      "bad logging options: level=" ++ level ++ " format=" ++ format, none, some "log"⟩]

/-- Take over the result of reading the command line. -/
def ofUsage {α : Type} : Except UsageFault α → Run α
  | .ok a => pure a
  | .error f => throw (.usage f)

/-- A run with a command line. -/
def program (x : Surroundings) (args : List Text) : Run Unit := do
  let head ← ofUsage (readHead args)
  setUpLogging head.logLevel head.logFormat
  perform x (← ofUsage (readTask head.name head.rest))

/-- Run a command line on a disk. -/
def execute (x : Surroundings) (args : List Text) (d : Disk) : Except Halt Unit × Session :=
  (program x args).run.run (.start d)

end CssMargin.Command
