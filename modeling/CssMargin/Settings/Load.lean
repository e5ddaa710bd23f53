/-
# Settings files

A settings file is a YAML mapping with the keys `origin`, `important` and `format`, each of which
may be missing; an empty file sets nothing.  The entries are looked at in the order of the file,
and the first one with an unknown key or an unsuitable value is reported.  An unknown key that is an
integer with too many digits cannot be shown, and this ends the run without a report.
-/
import CssMargin.Disk.Text
import CssMargin.Settings.Basic
import CssMargin.Shorthand.Check
import CssMargin.Value.Shown
import CssMargin.Yaml.Meaning.Document
namespace CssMargin

/-- What can be wrong with a settings file. -/
inductive SettingsFault where
  /-- Its text is not YAML. -/
  | notYaml (s : List Char)
  /-- It holds no mapping. -/
  | notMapping
  /-- It has an unknown key, shown as in messages. -/
  | unknownKey (key : Text)
  /-- The origin is unknown. -/
  | origin
  /-- The importance is not a truth value. -/
  | important
  /-- The format is unknown. -/
  | format
deriving DecidableEq, Repr

/-- The message of a fault; `say` words what is said about a text that is not YAML. -/
def SettingsFault.message (say : List Char → String) : SettingsFault → Text
  | .notYaml s => "settings file is not valid YAML: " ++ say s
  | .notMapping => "settings file must be a mapping"
  | .unknownKey key => "unknown setting '" ++ key ++ "' (choose from: format, important, origin)"
  | .origin => "origin must be one of " ++ EntryFault.listing (Origin.all.map Origin.name)
  | .important => "important must be a boolean"
  | .format =>
    "format must be one of " ++ EntryFault.listing (OutputFormat.all.map OutputFormat.name)

/-- Why reading settings stops. -/
inductive SettingsStop where
  /-- The file has a fault, which is reported. -/
  | fault (f : SettingsFault)
  /-- Something else is wrong. -/
  | failure (f : Failure)
deriving DecidableEq, Repr

/-- The format that a value names. -/
def asFormat? : Value → Option OutputFormat
  | .text t => OutputFormat.ofName? t
  | _ => none

/-- Why reading settings stops at an unknown key. -/
def unknownSetting (k : Value) : SettingsStop :=
  if k.hasLongInteger then .failure (.longInteger none) else .fault (.unknownKey k.shown)

/-- Take over one entry of a settings file. -/
def Overrides.set (o : Overrides) (k v : Value) : Except SettingsStop Overrides :=
  if k.isText "origin" then
    match asOrigin? v with
    | some x => .ok { o with origin := some x }
    | none => .error (.fault .origin)
  else if k.isText "important" then
    match asBool? v with
    | some b => .ok { o with important := some b }
    | none => .error (.fault .important)
  else if k.isText "format" then
    match asFormat? v with
    | some f => .ok { o with format := some f }
    | none => .error (.fault .format)
  else .error (unknownSetting k)

/-- What the value of a settings file sets. -/
def Overrides.ofValue : Value → Except SettingsStop Overrides
  | .null => .ok Overrides.nothing
  | .map entries => entries.foldlM (fun o e => o.set e.1 e.2) Overrides.nothing
  | _ => .error (.fault .notMapping)

/-- What the settings file at a path sets. -/
def loadOverrides (d : Disk) (p : Path) : Except SettingsStop Overrides :=
  match d.readText p with
  | .error f => .error (.failure (.read f))
  | .ok s =>
    match Yaml.read s with
    | .error .malformed => .error (.fault (.notYaml s))
    | .error (.mishap m) => .error (.failure (.yaml m))
    | .ok v => Overrides.ofValue v

/-- The settings in force when a settings file is named or, with no name or an empty one, none. -/
def loadSettings (d : Disk) (file : Option Text) : Except SettingsStop Settings :=
  match file with
  | none => .ok Settings.standard
  | some name =>
    if name = "" then .ok Settings.standard
    else Settings.standard.override <$> loadOverrides d (Path.ofText name)

end CssMargin
