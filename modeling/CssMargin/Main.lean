/-
# The program

Here a run meets the machine: the part of the disk that the command line names is read, the run is
computed, and its outputs and its changes of the disk are carried out.
-/
import CssMargin.Command.Perform
import Std.Time.DateTime.Timestamp
namespace CssMargin.Command

/-- The text of a place whose names are UTF-8. -/
def placePath? (l : Location) : Option String := do
  let names ← l.mapM fun n => (Text.decodeUtf8 n.bytes).toOption
  return "/" ++ "/".intercalate (names.map String.ofList)

/-- The places that a path leads through, seen from a place. -/
def passedPlaces (here : Location) (p : Path) : List Location :=
  let start := if p.isAbsolute then [] else here
  (p.parts.foldl (fun (seen : Location × List Location) (part : Text) =>
    let next := if part = ".." then seen.1.dropLast else seen.1 ++ [⟨part.bytes⟩]
    (next, next :: seen.2)) (start, [start])).2

/-- The texts of a command line that may be paths. -/
def possiblePaths (settingsFile : Option Text) (args : List Text) : List Path :=
  (settingsFile.toList ++ args.flatMap fun a => a :: (splitValue a).2.toList).map Path.ofText

/-- What is at a place of the machine's disk. -/
def readPlace (l : Location) : IO (Option Entry) := do
  try
    let some name := placePath? l | return none
    let path ← IO.FS.realPath name
    if ← path.isDir then return some .directory
    return some (.file (← IO.FS.readBinFile path).toList)
  catch _ => return none

/-- The part of the machine's disk that a command line names. -/
def readDisk (here : Location) (paths : List Path) : IO Disk := do
  let mut d : Disk := ⟨here, []⟩
  for l in paths.flatMap (passedPlaces here) do
    if let some e ← readPlace l then d := d.put l e
  return d

/-- Carry out the changes of a disk. -/
def writeDisk (before after : Disk) : IO Unit := do
  let changed := after.entries.filter fun e => before.at? e.1 ≠ some e.2
  for (l, e) in changed.mergeSort fun a b => decide (a.1.length ≤ b.1.length) do
    let some name := placePath? l | continue
    match e with
    | .directory => IO.FS.createDirAll name
    | .file bytes => IO.FS.writeBinFile name ⟨bytes.toArray⟩

/-- The time of the machine's clock. -/
def currentTime : IO Moment := do
  let now ← Std.Time.Timestamp.now
  return .ofEpoch (now.toNanosecondsSinceUnixEpoch.val.toNat / 1000)

/-- The exit code of a run, and what is said about a run that ended without a report. -/
def conclusion : Except Halt Unit → UInt32 × String
  | .ok () => (0, "")
  | .error (.exit code) => (code.toUInt32, "")
  | .error (.usage .noArguments) => (2, "Usage: shorthand [OPTIONS] COMMAND [ARGS]...\n")
  | .error (.usage .noSuchOption) => (2, "Error: no such option\n")
  | .error (.usage .badOptionUsage) => (2, "Error: an option lacks its value or has one too many\n")
  | .error (.usage .missingParameter) => (2, "Error: missing argument\n")
  | .error (.usage .other) => (2, "Error: no such command or too many arguments\n")
  | .error (.failure f) => (1, f.message ++ "\n")

/-- Run a command line on the machine. -/
def run (args : List Text) : IO UInt32 := do
  let settingsFile : Option Text := (← IO.getEnv "SHORTHAND_CONFIG").map fun s : String => s
  let here := (Path.ofText (← IO.currentDir).toString).parts.map fun part => ⟨part.bytes⟩
  let before ← readDisk here (possiblePaths settingsFile args)
  let surroundings := ⟨← currentTime, settingsFile, fun _ => "not a YAML text"⟩
  let (result, session) := execute surroundings args before
  writeDisk before session.disk
  let (code, remark) := conclusion result
  IO.print session.output
  IO.eprint (session.errors ++ remark)
  return code

end CssMargin.Command

/-- The program. -/
def main (args : List String) : IO UInt32 := CssMargin.Command.run (args.map fun s : String => s)
