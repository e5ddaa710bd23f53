/-
# Decimals with a given number of digits

A number can be shown with a given number of digits after the point, in scientific form with a
given number of digits after the first, or in the shorter of the two forms with a given number of
significant digits.  In each case the quotient that a number is gets rounded to the nearest decimal
on a grid, an exact half to the even one.
-/
import CssMargin.Decimal.Shortest
namespace CssMargin

/-- Digits with a point between the whole and the fraction.  Without a fraction the point is left
out unless it is asked for. -/
def joinPoint (keepPoint : Bool) (whole fraction : List Char) : List Char :=
  if fraction.isEmpty && !keepPoint then whole else whole ++ '.' :: fraction

/-- The quotient `num / den` with a number of digits after the point. -/
def fixedForm (keepPoint : Bool) (places num den : Nat) : List Char :=
  let ds := padDigits (places + 1) (roundDiv (num * tenTo places) den)
  joinPoint keepPoint (ds.take (ds.length - places)) (ds.drop (ds.length - places))

/-- The quotient `num / den` rounded to a number of significant digits: these digits, and the power
of ten that belongs to the first of them. -/
def significant (count num den : Nat) : List Char × Int :=
  if num = 0 then (List.replicate count '0', 0)
  else
    let top := Decimal.magnitude num den
    let (n, d) := Decimal.inUnits num den (top - count)
    let r := roundDiv n d
    if tenTo count ≤ r then (Nat.toDigits 10 (r / 10), top) else (Nat.toDigits 10 r, top - 1)

/-- Digits without the zeros at their end. -/
def dropTrailingZeros (ds : List Char) : List Char :=
  (ds.reverse.dropWhile (· == '0')).reverse

/-- The first of some digits, the point, the others and the power of ten. -/
def withExponent (keepPoint : Bool) (ds : List Char) (e : Int) : List Char :=
  joinPoint keepPoint (ds.take 1) (ds.drop 1) ++
    ['e', if e < 0 then '-' else '+'] ++ padDigits 2 e.natAbs

/-- The quotient `num / den` in scientific form, with a number of digits after the point. -/
def scientificForm (keepPoint : Bool) (places num den : Nat) : List Char :=
  let (ds, e) := significant (places + 1) num den
  withExponent keepPoint ds e

/-- The quotient `num / den` with a number of significant digits, in scientific form when it is
below `0.0001` or has more digits before the point than that.  Zeros at the end of the fraction are
left out unless they are asked for. -/
def generalForm (keepZeros : Bool) (count num den : Nat) : List Char :=
  let (ds, e) := significant count num den
  if e < -4 ∨ (count : Int) ≤ e then
    withExponent keepZeros (if keepZeros then ds else ds.take 1 ++ dropTrailingZeros (ds.drop 1)) e
  else
    let all := List.replicate (-e).toNat '0' ++ ds
    let whole := all.take (e.toNat + 1)
    let fraction := all.drop (e.toNat + 1)
    joinPoint keepZeros whole (if keepZeros then fraction else dropTrailingZeros fraction)

end CssMargin
