/-
# Messages

A template and its arguments make a message.  A directive shows its argument as an integer, as a
number with a fraction, as one character or as a text.  What is shown has up to three parts, a
sign, a marker of the base and a body: blanks fill the width around all of them, zeros only between
the marker and the body.
-/
import CssMargin.Log.Template
namespace CssMargin.Log

/-- The name of the type of a value in reports. -/
def typeName : Value → String
  | .null => "NoneType"
  | .bool _ => "bool"
  | .int _ => "int"
  | .float _ => "float"
  | .text _ => "str"
  | .bytes _ => "bytes"
  | .date _ => "datetime.date"
  | .moment _ => "datetime.datetime"
  | .list _ => "list"
  | .map _ => "dict"
  | .set _ => "set"

/-- The integer that a value is, truth values being among the integers. -/
def integer? : Value → Option Int
  | .bool b => some (if b then 1 else 0)
  | .int n => some n
  | _ => none

/-! ### What is shown -/

/-- The parts of what is shown. -/
structure Figure where
  /-- The sign, if any. -/
  sign : List Char
  /-- The marker of the base, if any. -/
  marker : List Char
  /-- The rest. -/
  body : List Point
deriving DecidableEq, Repr

/-- What is shown in one row. -/
def Figure.text (x : Figure) : List Point := (x.sign ++ x.marker).map .char ++ x.body

/-- What is shown, filled up to a width. -/
def Figure.pad (x : Figure) (left zeros : Bool) (width : Nat) : List Point :=
  let gap := width - x.text.length
  if left then x.text ++ List.replicate gap (.char ' ')
  else if zeros then
    (x.sign ++ x.marker).map .char ++ List.replicate gap (.char '0') ++ x.body
  else List.replicate gap (.char ' ') ++ x.text

/-- The sign of a number: the minus, or what the flags put in its place. -/
def signOf (f : Flags) (negative : Bool) : List Char :=
  if negative then ['-'] else if f.plus then ['+'] else if f.blank then [' '] else []

/-- An integer, with at least as many digits as the precision says. -/
def integerFigure (f : Flags) (precision : Option Nat) (letter : Char) (n : Int) : Figure :=
  let base := if letter = 'o' then 8 else if letter = 'x' ∨ letter = 'X' then 16 else 10
  let ds := Nat.toDigits base n.natAbs
  let ds := List.replicate (precision.getD 0 - ds.length) '0' ++ ds
  ⟨signOf f (n < 0), if f.alternate && base ≠ 10 then ['0', letter] else [],
    (if letter = 'X' then ds.map Char.toUpper else ds).map .char⟩

/-- A number with a fraction; six digits is the usual precision. -/
def fractionFigure (f : Flags) (precision : Option Nat) (letter : Char) (x : Binary64) : Figure :=
  let places := precision.getD 6
  let body := match x with
    | .nan => ['n', 'a', 'n']
    | .infinite _ => ['i', 'n', 'f']
    | .finite _ m e =>
      let (num, den) := Binary64.ratio m e
      if letter = 'f' ∨ letter = 'F' then fixedForm f.alternate places num den
      else if letter = 'e' ∨ letter = 'E' then scientificForm f.alternate places num den
      else generalForm f.alternate (max 1 places) num den
  ⟨signOf f x.isNegative, [],
    (if letter.isUpper then body.map Char.toUpper else body).map .char⟩

/-- A text, cut to the precision. -/
def textFigure (precision : Option Nat) (s : List Point) : Figure :=
  ⟨[], [], match precision with
    | some n => s.take n
    | none => s⟩

/-- How a character outside ASCII is written by its position. -/
def asciiEscape (c : Char) : List Char :=
  if c.toNat < 0x80 then [c]
  else if c.toNat < 0x100 then '\\' :: 'x' :: Text.hexDigits 2 c.toNat
  else if c.toNat < 0x10000 then '\\' :: 'u' :: Text.hexDigits 4 c.toNat
  else '\\' :: 'U' :: Text.hexDigits 8 c.toNat

/-- The integer that a directive shows, cut off if the argument has a fraction. -/
def asInteger (letter : Char) : Value → Except TemplateFault Int
  | .float .nan => .error .notANumber
  | .float (.infinite _) => .error .infinite
  | v =>
    match integer? v, v with
    | some n, _ => .ok n
    | none, .float x => .ok (x.truncate?.getD 0)
    | none, v => .error (.needsNumber letter (typeName v))

/-- The integer that a directive shows to a base other than ten. -/
def asWholeNumber (letter : Char) (v : Value) : Except TemplateFault Int :=
  match integer? v with
  | some n => .ok n
  | none => .error (.needsInteger letter (typeName v))

/-- The number with a fraction that a directive shows. -/
def asFraction : Value → Except TemplateFault Binary64
  | .float x => .ok x
  | v =>
    match integer? v with
    | some n =>
      match Binary64.ofInt n with
      | .infinite _ => .error .tooLarge
      | x => .ok x
    | none => .error (.needsFraction (typeName v))

/-- The character that a directive shows, or half of a surrogate pair. -/
def asCharacter (v : Value) : Except TemplateFault Point :=
  match v with
  | .text t =>
    match t.points with
    | [p] => .ok p
    | _ => .error .needsCharacter
  | v =>
    match integer? v with
    | some n => if 0 ≤ n ∧ n < 0x110000 then .ok (Point.ofPosition n.toNat) else .error .noCharacter
    | none => .error .needsCharacter

/-- What can be shown of a value: everything, unless it has an integer with too many digits. -/
def showable (v : Value) : Except TemplateFault Value :=
  if v.hasLongInteger then .error .longInteger else .ok v

/-- What a directive shows of its argument, and whether this is a number. -/
def convert (f : Flags) (precision : Option Nat) (letter : Char) (position : Nat) (v : Value) :
    Except TemplateFault (Figure × Bool) :=
  match letter with
  | 's' => do .ok (textFigure precision (← showable v).shown.points, false)
  | 'r' => do .ok (textFigure precision (← showable v).literal.toList, false)
  | 'a' => do
    let shown := (← showable v).literal.toList.flatMap asciiEscape
    .ok (textFigure precision shown, false)
  | 'd' | 'i' | 'u' => do
    let n ← asInteger letter v
    if Text.isLongInteger n then .error .longInteger
    else .ok (integerFigure f precision letter n, true)
  | 'o' | 'x' | 'X' => do .ok (integerFigure f precision letter (← asWholeNumber letter v), true)
  | 'e' | 'E' | 'f' | 'F' | 'g' | 'G' => do
    .ok (fractionFigure f precision letter (← asFraction v), true)
  | 'c' => do .ok (⟨[], [], [← asCharacter v]⟩, false)
  | _ => .error (.unknown letter position)

/-! ### Filling a template -/

namespace Supply

/-- Take the next argument. -/
def take : Supply → Except TemplateFault (Value × Supply)
  | .sequence [] | .mapping _ none => .error .tooFew
  | .sequence (v :: r) => .ok (v, .sequence r)
  | .mapping entries (some v) => .ok (v, .mapping entries none)

/-- Make the argument with a name the next one. -/
def choose (s : Supply) (key : Key) : Except TemplateFault Supply :=
  match key, s with
  | .absent, s => .ok s
  | _, .sequence _ => .error .noMapping
  | .unclosed, .mapping _ _ => .error .openKey
  | .named name, .mapping entries _ =>
    match Value.lookup? name entries with
    | some v => .ok (.mapping entries (some v))
    | none => .error (.missing name)

/-- Find out a width or a precision; either has to be in its range. -/
def extent (s : Supply) (range : Range) : Extent → Except TemplateFault (Option Int × Supply)
  | .absent => .ok (none, s)
  | .given n => if n < range.bound then .ok (some n, s) else .error (.tooBig range)
  | .argument => do
    let (v, s) ← s.take
    match integer? v with
    | some n =>
      if -range.bound ≤ n ∧ n < range.bound then .ok (some n, s) else .error (.starredTooBig range)
    | none => .error .starred

/-- Check at the end that a sequence is used up. -/
def finish : Supply → Except TemplateFault Unit
  | .sequence (_ :: _) => .error .tooMany
  | _ => .ok ()

end Supply

/-- Fill a directive.  A negative width stands for padding on the right. -/
def fillDirective (d : Directive) (s : Supply) : Except TemplateFault (List Point × Supply) := do
  let s ← s.choose d.key
  let (width, s) ← s.extent .width d.width
  let (precision, s) ← s.extent .precision d.precision
  match d.letter with
  | none => .error .brokenOff
  | some letter =>
    let (v, s) ← s.take
    let width := width.getD 0
    let (figure, isNumber) ← convert d.flags (precision.map Int.toNat) letter d.position v
    .ok (figure.pad (d.flags.left || width < 0) (d.flags.zero && isNumber) width.natAbs, s)

/-- Fill the pieces of a template. -/
def fillPieces : List Piece → Supply → Except TemplateFault (List Point)
  | [], s => do
    s.finish
    .ok []
  | .char c :: r, s => (.char c :: ·) <$> fillPieces r s
  | .directive d :: r, s => do
    let (shown, s) ← fillDirective d s
    (shown ++ ·) <$> fillPieces r s

/-- The message that a template and its arguments make.  Without arguments the template is the
message, percent signs included. -/
def message (template : String) (arguments : List Value) : Except TemplateFault Text :=
  let arguments := Arguments.of arguments
  if arguments.isEmpty then .ok template
  else Text.ofPoints <$> fillPieces (pieces template.toList) arguments.supply

end CssMargin.Log
