/-
# What can be wrong with a YAML text

A text that breaks the rules of the notation is just called malformed.  Besides there are texts that
keep the rules but stop the reader all the same, since they name something that does not exist, such
as the thirteenth month, or are too much for it.  These mishaps are told apart and described.
-/
import CssMargin.Calendar
import CssMargin.Text.Literal
namespace CssMargin.Yaml

/-- What can stop the reader of a text that keeps the rules. -/
inductive Mishap where
  /-- An escape names a position beyond the last character. -/
  | codePoint (n : Nat)
  /-- A scalar tagged as an integer is none. -/
  | integer (base : Nat) (text : List Point)
  /-- A scalar tagged as a number is none. -/
  | number (text : List Point)
  /-- A scalar tagged as a number is empty. -/
  | emptyNumber
  /-- An integer or a number of the version has too many digits. -/
  | longInteger (digits : Nat)
  /-- A number to the base sixty has a place whose weight is too large. -/
  | largeWeight
  /-- A scalar tagged as a truth value is none. -/
  | truth (text : List Point)
  /-- A scalar tagged as a date has not the form of one. -/
  | timestamp
  /-- A mapping is tagged as a date. -/
  | mappingAsDate
  /-- A date or a time of day does not exist. -/
  | calendar (fault : CalendarFault)
  /-- The default key of a mapping leads back to the mapping. -/
  | endless
deriving DecidableEq, Repr

/-- Why a YAML text has no value. -/
inductive Fault where
  /-- It breaks the rules of the notation. -/
  | malformed
  /-- It keeps the rules, but the reader is stopped. -/
  | mishap (m : Mishap)
deriving DecidableEq, Repr

/-- The wording of a mishap.  Of a long text that is no integer the beginning is shown. -/
def Mishap.message : Mishap → String
  | .codePoint n =>
    if n < twoTo 31 then "chr() arg not in range(0x110000)"
    else "Python int too large to convert to C int"
  | .integer base text =>
    "invalid literal for int() with base " ++ toString base ++ ": " ++
      String.ofList ((Text.literalOf text).take 200)
  | .number text => "could not convert string to float: " ++ String.ofList (Text.literalOf text)
  | .emptyNumber => "string index out of range"
  | .longInteger digits => Text.longIntegerMessage digits
  | .largeWeight => "int too large to convert to float"
  | .truth text => String.ofList (Text.literalOf text)
  | .timestamp => "'NoneType' object has no attribute 'groupdict'"
  | .mappingAsDate => "expected string or bytes-like object, got 'list'"
  | .calendar fault => fault.message
  | .endless => "maximum recursion depth exceeded"

end CssMargin.Yaml
