/-
# Binary floating-point numbers

A number with a fraction, as it occurs in a document, is one of the finitely many binary numbers
with fifty-three bits, an infinity, or not a number.  They are kept here as sign, mantissa and
exponent, so that every operation is a computation with natural numbers: what is read or computed
exactly is a quotient `num / den`, and `ofRatio` takes it to the nearest binary number, an exact
half going to the one with the even mantissa.
-/
namespace CssMargin

/-- A binary floating-point number of fifty-three bits. -/
inductive Binary64 where
  /-- Not a number. -/
  | nan
  /-- One of the two infinities. -/
  | infinite (negative : Bool)
  /-- The number `± mantissa * 2 ^ exponent`. -/
  | finite (negative : Bool) (mantissa : Nat) (exponent : Int)
deriving DecidableEq, Repr

/-- A power of two. -/
def twoTo (n : Nat) : Nat := Nat.pow 2 n

/-- A power of ten. -/
def tenTo (n : Nat) : Nat := Nat.pow 10 n

/-- A quotient taken to a nearest natural number, a half to the even one. -/
def roundDiv (num den : Nat) : Nat :=
  let q := num / den
  let r := num % den
  if 2 * r < den then q
  else if 2 * r = den then q + q % 2
  else q + 1

/-- The number of decimal digits of a natural number; zero has one. -/
def digitCount (n : Nat) : Nat := (Nat.toDigits 10 n).length

namespace Binary64

/-- The least exponent, that of the numbers closest to zero. -/
def leastExponent : Int := -1074

/-- The greatest exponent. -/
def greatestExponent : Int := 971

/-- Zero, with either sign. -/
def zero (negative : Bool) : Binary64 := .finite negative 0 leastExponent

/-- The quotient `num / (den * 2 ^ e)` as a quotient of natural numbers. -/
def scaled (num den : Nat) (e : Int) : Nat × Nat :=
  if 0 ≤ e then (num, den * twoTo e.toNat) else (num * twoTo (-e).toNat, den)

/-- The exponent at which a positive quotient has fifty-three bits before its point, or the least
one for a quotient too small for that. -/
def exponentOf (num den : Nat) : Int :=
  -- what the leading bits say is right or one too great
  let e : Int := (num.log2 : Int) - den.log2 - 52
  let (n, d) := scaled num den e
  let e := if n / d < twoTo 52 then e - 1 else e
  max leastExponent e

/-- The binary number nearest to `± num / den`. -/
def ofRatio (negative : Bool) (num den : Nat) : Binary64 :=
  if num = 0 then zero negative
  else
    let e := exponentOf num den
    let (n, d) := scaled num den e
    let m := roundDiv n d
    -- rounding up can make one bit more
    let (m, e) := if m = twoTo 53 then (twoTo 52, e + 1) else (m, e)
    if greatestExponent < e then .infinite negative else .finite negative m e

/-- The binary number nearest to `± digits * 10 ^ exponent`. -/
def ofDecimal (negative : Bool) (digits : Nat) (exponent : Int) : Binary64 :=
  -- far below the least number and far above the greatest one nothing has to be computed
  let size : Int := digitCount digits + exponent
  if digits = 0 ∨ size < -330 then zero negative
  else if 320 < size then .infinite negative
  else if 0 ≤ exponent then ofRatio negative (digits * tenTo exponent.toNat) 1
  else ofRatio negative digits (tenTo (-exponent).toNat)

/-- The binary number nearest to an integer. -/
def ofInt (n : Int) : Binary64 := ofRatio (n < 0) n.natAbs 1

/-- The other sign. -/
def neg : Binary64 → Binary64
  | .nan => .nan
  | .infinite s => .infinite !s
  | .finite s m e => .finite (!s) m e

/-- Whether the sign is minus. -/
def isNegative : Binary64 → Bool
  | .nan => false
  | .infinite s => s
  | .finite s _ _ => s

/-- The magnitude of a finite number as a quotient of natural numbers. -/
def ratio (m : Nat) (e : Int) : Nat × Nat :=
  if 0 ≤ e then (m * twoTo e.toNat, 1) else (m, twoTo (-e).toNat)

/-- The rounded product. -/
def mul : Binary64 → Binary64 → Binary64
  | .nan, _ | _, .nan => .nan
  | .infinite s, y => if y = zero true ∨ y = zero false then .nan else .infinite (s != y.isNegative)
  | x, .infinite s => if x = zero true ∨ x = zero false then .nan else .infinite (s != x.isNegative)
  | .finite s m e, .finite t n f =>
    let (a, b) := ratio (m * n) (e + f)
    ofRatio (s != t) a b

/-- The rounded sum. -/
def add : Binary64 → Binary64 → Binary64
  | .nan, _ | _, .nan => .nan
  | .infinite s, .infinite t => if s = t then .infinite s else .nan
  | .infinite s, _ | _, .infinite s => .infinite s
  | .finite s m e, .finite t n f =>
    let low := min e f
    let value (s : Bool) (m : Nat) (e : Int) : Int :=
      let a : Int := m * twoTo (e - low).toNat
      if s then -a else a
    let sum := value s m e + value t n f
    let negative := if sum = 0 then s && t else decide (sum < 0)
    let (a, b) := ratio sum.natAbs low
    ofRatio negative a b

/-- The integer that a number is equal to, if there is one. -/
def toInt? : Binary64 → Option Int
  | .finite s m e =>
    let (a, b) := ratio m e
    if a % b = 0 then some (if s then -(a / b : Nat) else (a / b : Nat)) else none
  | _ => none

/-- The integer part of a finite number. -/
def truncate? : Binary64 → Option Int
  | .finite s m e =>
    let (a, b) := ratio m e
    some (if s then -(a / b : Nat) else (a / b : Nat))
  | _ => none

end Binary64

end CssMargin
