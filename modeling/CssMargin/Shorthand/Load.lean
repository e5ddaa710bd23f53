/-
# Loading a document

The file has to be there, to have the ending of a YAML or a JSON file, to be readable as text, to
be a text of that format, and to hold a mapping.  The first of these that fails is reported.  What
stands under `declarations` is not looked at.  A text may nest to any depth: the readers have no
stack that could run out.
-/
import CssMargin.Disk.Text
import CssMargin.Json.Reader
import CssMargin.Problem
import CssMargin.Shorthand.Basic
import CssMargin.Yaml.Meaning.Document
namespace CssMargin

/-- The formats of documents. -/
inductive DocumentFormat where
  | yaml
  | json
deriving DecidableEq, Repr

/-- The endings of YAML files. -/
def yamlSuffixes : List String := [".yaml", ".yml"]

/-- The format that the ending of a file says, in any letter case. -/
def DocumentFormat.ofSuffix? (suffix : List Point) : Option DocumentFormat :=
  let s := Text.lowerAscii (suffix.map Point.face)
  if yamlSuffixes.any (·.toList == s) then some .yaml
  else if s = ".json".toList then some .json
  else none

/-- Why a document cannot be loaded. -/
inductive LoadFault where
  /-- There is no such file. -/
  | notFound
  /-- The ending is unknown. -/
  | unsupportedFormat
  /-- The file cannot be read. -/
  | unreadable (f : ReadFault)
  /-- The text of the file is not YAML. -/
  | badYaml (s : List Char)
  /-- The file is not JSON; the report says where. -/
  | badJson (report : String)
  /-- The file holds no mapping. -/
  | notMapping
deriving DecidableEq, Repr

namespace LoadFault

/-- The code of a fault. -/
def code : LoadFault → String
  | .notFound => "E_FILE_NOT_FOUND"
  | .unsupportedFormat => "E_UNSUPPORTED_FORMAT"
  | .unreadable _ => "E_FILE_READ"
  | .badYaml _ => "E_YAML_PARSE"
  | .badJson _ => "E_JSON_PARSE"
  | .notMapping => "E_INVALID_TOP_LEVEL"

/-- The message of a fault; `say` words what is said about a text that is not YAML. -/
def message (say : List Char → String) : LoadFault → String
  | .notFound => "file does not exist"
  | .unsupportedFormat => "supported formats are .yaml/.yml and .json"
  | .unreadable f => f.message
  | .badYaml s => say s
  | .badJson report => report
  | .notMapping => "top-level document must be a mapping, with shorthands under 'declarations'"

/-- The report of a fault in a file. -/
def report (say : List Char → String) (file : Text) (f : LoadFault) : Problem :=
  ⟨.load, f.code, f.message say, some file, none⟩

end LoadFault

/-- Why loading stops. -/
inductive LoadStop where
  /-- The document has a fault, which is reported. -/
  | fault (f : LoadFault)
  /-- The run ends. -/
  | failure (f : Failure)
deriving DecidableEq, Repr

/-- The value of a text in a format. -/
def DocumentFormat.read (format : DocumentFormat) (s : List Char) : Except LoadStop Value :=
  match format with
  | .yaml =>
    match Yaml.read s with
    | .ok v => .ok v
    | .error .malformed => .error (.fault (.badYaml s))
    | .error (.mishap m) => .error (.failure (.yaml m))
  | .json =>
    match Json.read s with
    | .ok j => .ok j.toValue
    | .error (.malformed reason rest) => .error (.fault (.badJson (reason.report rest s)))
    | .error (.longInteger digits) => .error (.failure (.longInteger digits))

/-- The document that a value is. -/
def Document.ofValue (file : Text) : Value → Except LoadStop Document
  | .map entries =>
    .ok ⟨(Value.lookup? "declarations" entries).getD .null, some file⟩
  | _ => .error (.fault .notMapping)

/-- Load the document at a path. -/
def loadDocument (d : Disk) (p : Path) : Except LoadStop Document :=
  match d.has p with
  | .error f => .error (.failure (.read (.disk f)))
  | .ok false => .error (.fault .notFound)
  | .ok true =>
    match DocumentFormat.ofSuffix? p.suffix with
    | none => .error (.fault .unsupportedFormat)
    | some format =>
      match d.readText p with
      | .error f => .error (.fault (.unreadable f))
      | .ok s => do
        let v ← format.read s
        Document.ofValue p.text v

end CssMargin
