/-
# Text files

A text file may end its lines with a line feed, a carriage return, or both in that order.  It is
read as UTF-8, and with all three made a line feed, so that places counted in lines and columns do
not depend on the system that wrote the file.  It is written as UTF-8, with the line ends that the
text has.  What goes wrong and is not expected anywhere ends a run; such failures are collected
here.
-/
import CssMargin.Disk.Basic
import CssMargin.Text.Utf8
import CssMargin.Yaml.Fault
namespace CssMargin

/-! ### Line ends -/

/-- A text with each CR LF pair, and each CR on its own, made a line feed. -/
def Text.unifyLines : List Char → List Char
  | [] => []
  | '\r' :: '\n' :: r => '\n' :: unifyLines r
  | c :: r => (if c = '\r' then '\n' else c) :: unifyLines r

@[simp] theorem Text.unifyLines_crlf (r : List Char) :
    unifyLines ('\r' :: '\n' :: r) = '\n' :: unifyLines r := rfl

theorem Text.unifyLines_cons_of_ne {c : Char} (h : c ≠ '\r') (r : List Char) :
    unifyLines (c :: r) = c :: unifyLines r := by
  rw [unifyLines]
  · simp [h]
  · intro r' hc
    exact absurd hc h

/-! ### Failures -/

/-- Why a text file cannot be read. -/
inductive ReadFault where
  /-- The file cannot be reached. -/
  | disk (f : DiskFault)
  /-- Its bytes are no text. -/
  | encoding (f : Text.Utf8Fault)
deriving DecidableEq, Repr

/-- The report of a fault. -/
def ReadFault.message : ReadFault → String
  | .disk f => f.message
  | .encoding f => f.message

/-- A failure that ends a run. -/
inductive Failure where
  /-- A file cannot be reached, read or written. -/
  | read (f : ReadFault)
  /-- The reader of a YAML text is stopped. -/
  | yaml (m : Yaml.Mishap)
  /-- A JSON text has an integer with too many digits, or one whose digits are not counted is to be
  shown. -/
  | longInteger (digits : Option Nat)
  /-- A text that is to be printed holds halves of surrogate pairs. -/
  | stray (x : Text.Stray)
deriving DecidableEq, Repr

/-- The report of a failure. -/
def Failure.message : Failure → String
  | .read f => f.message
  | .yaml m => m.message
  | .longInteger digits => Text.longIntegerMessage digits
  | .stray x => x.message

/-! ### Reading and writing -/

/-- The text of the file at a path. -/
def Disk.readText (d : Disk) (p : Path) : Except ReadFault (List Char) :=
  match d.readFile p with
  | .error f => .error (.disk f)
  | .ok bytes =>
    match Text.decodeUtf8 bytes with
    | .error f => .error (.encoding f)
    | .ok s => .ok (Text.unifyLines s)

/-- Write a text to a file. -/
def Disk.writeText (d : Disk) (p : Path) (s : List Char) : Except DiskFault Disk :=
  d.writeFile p (Text.encodeUtf8 s)

end CssMargin
