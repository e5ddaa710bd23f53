/-
# Numbers in YAML

An integer is binary after `0b`, hexadecimal after `0x`, octal after any other zero, to the base
sixty when it has colons, and decimal otherwise; underscores are ignored.  A number with a fraction
may be to the base sixty too.  A scalar that is tagged as a number need not be spelled like one, so
every form is read with care: blanks around the digits and digits of other scripts are accepted,
and all else is reported.
-/
import CssMargin.Text.Blank
import CssMargin.Text.Case
import CssMargin.Yaml.Fault
namespace CssMargin.Yaml

/-- A sign and what follows it. -/
def splitSign (s : List Char) : Bool × List Char :=
  match s with
  | '-' :: r => (true, r)
  | '+' :: r => (false, r)
  | r => (false, r)

/-- Whether a text begins with a minus, and what follows its sign. -/
def splitSignPoint (s : List Point) : Bool × List Point :=
  match s with
  | .char '-' :: r => (true, r)
  | .char '+' :: r => (false, r)
  | r => (false, r)

/-- Whether a character is a decimal digit of any script. -/
def isDecimalDigit (c : Char) : Bool := (Text.digitValue? c).isSome

/-! ### Integers -/

/-- The letter that may follow a zero to announce a base. -/
def baseLetter? (base : Nat) : Option Char :=
  if base = 2 then some 'b' else if base = 8 then some 'o' else if base = 16 then some 'x' else none

/-- A text without the announcement of its base. -/
def dropBase (base : Nat) (s : List Char) : List Char :=
  match s with
  | '0' :: c :: r => if some c.toLower = baseLetter? base then r else s
  | s => s

/-- The number that digits to a base stand for. -/
def digits? (base : Nat) (ds : List Char) : Option Nat :=
  if ds.isEmpty then none
  else ds.foldlM (fun n d => (Text.digitInBase? base d).map (base * n + ·)) 0

/-- Read an integer to a base, with blanks around it, a sign and the announcement of the base.  To
the base ten the digits at the beginning are counted before anything else is looked at. -/
def integerOf (base : Nat) (s : List Point) : Except Mishap Int :=
  let (negative, ds) := splitSign (Text.trim (s.map Point.face))
  let ds := dropBase base ds
  let count := (ds.takeWhile isDecimalDigit).length
  if base = 10 ∧ Text.digitLimit < count then .error (.longInteger count)
  else match digits? base ds with
    | none => .error (.integer base s)
    | some n => .ok (if negative then -n else n)

/-- The number whose places to the base sixty are given, the highest first. -/
def sexagesimal (places : List Int) : Int := places.foldl (fun n p => 60 * n + p) 0

/-- Read an integer without a sign. -/
def magnitudeOf (s : List Point) : Except Mishap Int :=
  match s with
  | [] => .error .emptyNumber
  | [.char '0'] => .ok 0
  | .char '0' :: .char 'b' :: r => integerOf 2 r
  | .char '0' :: .char 'x' :: r => integerOf 16 r
  | .char '0' :: _ => integerOf 8 s
  | s =>
    if s.contains (.char ':') then
      sexagesimal <$> (Text.cutAt (.char ':') s).mapM (integerOf 10)
    else integerOf 10 s

/-- Read an integer. -/
def readInteger (s : List Point) : Except Mishap Int :=
  let s := s.filter (· ≠ .char '_')
  if s.isEmpty then .error .emptyNumber
  else
    let (negative, r) := splitSignPoint s
    (fun n => if negative then -n else n) <$> magnitudeOf r

/-! ### Numbers with a fraction -/

/-- The digits that a text begins with, as numbers, and the rest. -/
def spanDigits (s : List Char) : List Nat × List Char :=
  ((s.takeWhile isDecimalDigit).filterMap Text.digitValue?, s.dropWhile isDecimalDigit)

/-- The number that decimal digits stand for. -/
def digitsValue (ds : List Nat) : Nat := ds.foldl (fun n d => 10 * n + d) 0

/-- An exponent that makes up a whole text; the empty text is the exponent zero. -/
def exponent? (s : List Char) : Option Int :=
  match s with
  | [] => some 0
  | c :: r =>
    if c = 'e' ∨ c = 'E' then
      let (negative, r) := splitSign r
      let (ds, rest) := spanDigits r
      if ds.isEmpty || !rest.isEmpty then none
      else some (if negative then -(digitsValue ds : Int) else digitsValue ds)
    else none

/-- A decimal number without a sign. -/
def decimal? (negative : Bool) (s : List Char) : Option Binary64 :=
  let (whole, r) := spanDigits s
  let (fraction, r) := match r with
    | '.' :: r => spanDigits r
    | r => ([], r)
  if whole.isEmpty && fraction.isEmpty then none
  else (exponent? r).map fun e =>
    Binary64.ofDecimal negative (digitsValue (whole ++ fraction)) (e - fraction.length)

/-- Read a number with blanks around it and a sign; infinity and not-a-number have names. -/
def numberOf (s : List Point) : Except Mishap Binary64 :=
  let (negative, r) := splitSign (Text.trim (s.map Point.face))
  let word := Text.lowerAscii r
  if word = "inf".toList ∨ word = "infinity".toList then .ok (.infinite negative)
  else if word = "nan".toList then .ok .nan
  else match decimal? negative r with
    | some x => .ok x
    | none => .error (.number s)

/-- The sum of places to the base sixty, the lowest first, each rounded on its own.  A weight has to
be in the range of the numbers. -/
def sumSixties : (weight : Nat) → (sum : Binary64) → List Binary64 → Except Mishap Binary64
  | _, sum, [] => .ok sum
  | weight, sum, p :: r =>
    match Binary64.ofInt weight with
    | .infinite _ => .error .largeWeight
    | w => sumSixties (weight * 60) (sum.add (p.mul w)) r

/-- Read a number with a fraction. -/
def readNumber (s : List Point) : Except Mishap Binary64 :=
  let s := Text.lowerPoints (s.filter (· ≠ .char '_'))
  if s.isEmpty then .error .emptyNumber
  else
    let (negative, r) := splitSignPoint s
    let signed (x : Binary64) : Binary64 := if negative then x.neg else x
    if r = ".inf".toList then .ok (signed (.infinite false))
    else if r = ".nan".toList then .ok .nan
    else if r.contains (.char ':') then do
      let places ← (Text.cutAt (.char ':') r).mapM numberOf
      signed <$> sumSixties 1 (Binary64.zero false) places.reverse
    else signed <$> numberOf r

end CssMargin.Yaml
