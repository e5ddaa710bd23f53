/-
# The shortest decimal that reads back

Many decimals are taken to the same binary number; the text of a number is the one with the
fewest digits among them, and of several with equally few digits the nearest to the number.  The
reals that are rounded to `m * 2 ^ q` form an interval around it, whose ends belong to it exactly
when `m` is even.  With one digit, two digits and so on up to seventeen, the two neighbours of the
number on the decimal grid are held against that interval; the first grid with a neighbour inside
gives the digits.  How a digit string is then laid out is a separate choice, kept in the record
`FloatLayout`.
-/
import CssMargin.Decimal.Binary64
namespace CssMargin

/-- A positive decimal: `digits * 10 ^ exponent`. -/
structure Decimal where
  /-- The digits, read as a natural number. -/
  digits : Nat
  /-- The power of ten that belongs to the last digit. -/
  exponent : Int
deriving DecidableEq, Repr

namespace Decimal

/-- The same decimal with a nonzero last digit. -/
def strip : Nat → Decimal → Decimal
  | 0, d => d
  | fuel + 1, d =>
    if d.digits % 10 = 0 ∧ d.digits ≠ 0 then strip fuel ⟨d.digits / 10, d.exponent + 1⟩ else d

/-- The power of ten just above a positive quotient: the `p` with
`10 ^ (p - 1) ≤ num / den < 10 ^ p`. -/
def magnitude (num den : Nat) : Int :=
  if den ≤ num then digitCount (num / den)
  else
    let k := digitCount (den / num)
    if num * tenTo (k - 1) = den then 2 - (k : Int) else 1 - (k : Int)

/-- The quotient `num / den` in units of `10 ^ e`, as a quotient of natural numbers. -/
def inUnits (num den : Nat) (e : Int) : Nat × Nat :=
  if 0 ≤ e then (num, den * tenTo e.toNat) else (num * tenTo (-e).toNat, den)

/-- An interval of quotients with common denominator, around a value. -/
structure Interval where
  /-- The lower end. -/
  low : Nat
  /-- The value. -/
  value : Nat
  /-- The upper end. -/
  high : Nat
  /-- The denominator of the three. -/
  den : Nat
  /-- Whether the ends belong to the interval. -/
  closed : Bool

/-- The reals that are rounded to `m * 2 ^ q`. -/
def Interval.around (m : Nat) (q : Int) : Interval :=
  -- below a power of two the binary numbers stand twice as close
  let below := if m = twoTo 52 ∧ Binary64.leastExponent < q then 1 else 2
  let scale (n : Nat) : Nat := if 0 ≤ q then n * twoTo q.toNat else n
  let den := if 0 ≤ q then 4 else 4 * twoTo (-q).toNat
  ⟨scale (4 * m - below), scale (4 * m), scale (4 * m + 2), den, m % 2 == 0⟩

/-- Whether `n * 10 ^ e` lies in an interval. -/
def Interval.contains (i : Interval) (n : Nat) (e : Int) : Bool :=
  let (x, d) : Nat × Nat := if 0 ≤ e then (n * tenTo e.toNat, 1) else (n, tenTo (-e).toNat)
  let a := x * i.den
  if i.closed then i.low * d ≤ a && a ≤ i.high * d else i.low * d < a && a < i.high * d

/-- The neighbour on the grid of `10 ^ e` that lies in the interval and is the nearer one. -/
def Interval.pick? (i : Interval) (e : Int) : Option Decimal :=
  let (n, d) := inUnits i.value i.den e
  let near := roundDiv n d
  let other := if near = n / d then near + 1 else n / d
  if near ≠ 0 && i.contains near e then some ⟨near, e⟩
  else if other ≠ 0 && i.contains other e then some ⟨other, e⟩
  else none

/-- Try the grids with one, two, … digits. -/
def Interval.shortest (i : Interval) (top : Int) : (left done : Nat) → Decimal
  | 0, done => ⟨roundDiv (inUnits i.value i.den (top - done)).1
      (inUnits i.value i.den (top - done)).2, top - done⟩
  | left + 1, done =>
    match i.pick? (top - (done + 1 : Nat)) with
    | some d => d
    | none => i.shortest top left (done + 1)

/-- The shortest decimal that is rounded to the positive number `m * 2 ^ q`. -/
def shortest (m : Nat) (q : Int) : Decimal :=
  let i := Interval.around m q
  strip 17 (i.shortest (magnitude i.value i.den) 17 0)

end Decimal

/-- How a number with a fraction is laid out. -/
structure FloatLayout where
  /-- The least decimal exponent that is written positionally. -/
  lowest : Int
  /-- The least decimal exponent above those written positionally. -/
  limit : Int
  /-- The least number of digits of an exponent. -/
  exponentDigits : Nat

/-- A natural number with zeros in front of it up to a number of digits. -/
def padDigits (width n : Nat) : List Char :=
  let ds := Nat.toDigits 10 n
  List.replicate (width - ds.length) '0' ++ ds

/-- The text of a positive decimal: positional with at least one digit after the point, or one
digit before the point and a signed exponent. -/
def FloatLayout.write (l : FloatLayout) (d : Decimal) : List Char :=
  let ds := Nat.toDigits 10 d.digits
  let e := d.exponent + ds.length - 1
  if l.lowest ≤ e ∧ e < l.limit then
    if 0 ≤ d.exponent then ds ++ List.replicate d.exponent.toNat '0' ++ ['.', '0']
    else if 0 ≤ e then ds.take (e.toNat + 1) ++ '.' :: ds.drop (e.toNat + 1)
    else ['0', '.'] ++ List.replicate ((-e).toNat - 1) '0' ++ ds
  else
    let tail := if ds.length ≤ 1 then [] else '.' :: ds.drop 1
    ds.take 1 ++ tail ++ ['e', if e < 0 then '-' else '+'] ++ padDigits l.exponentDigits e.natAbs

/-- Numbers in documents are written positionally from `0.0001` up to seventeen places, and an
exponent has two digits at least. -/
def FloatLayout.document : FloatLayout := ⟨-4, 16, 2⟩

/-- The shortest text of a number. -/
def Binary64.text (x : Binary64) : String :=
  match x with
  | .nan => "nan"
  | .infinite s => if s then "-inf" else "inf"
  | .finite s m e =>
    let body := if m = 0 then ['0', '.', '0'] else FloatLayout.document.write (Decimal.shortest m e)
    String.ofList (if s then '-' :: body else body)

end CssMargin
