/-!
# Decimals

A decimal is a whole number of units of a power of ten.  This is the common
ground of reading numbers, where the rounding to double precision comes last,
and of writing them, where it has already happened.
-/

namespace Calculator

/-- The number `digits * 10 ^ exponent`. -/
structure Decimal where
  digits : Nat
  exponent : Int
deriving DecidableEq, Repr, Inhabited

namespace Decimal

/-- How many decimal digits the whole part needs, negative for leading zeros
after the point: the number is below `10 ^ magnitude`. -/
def magnitude (decimal : Decimal) : Int :=
  (toString decimal.digits).length + decimal.exponent

/-- Beyond this magnitude a number rounds to infinity, and below its negative
to zero, so the power of ten need not be formed. -/
def magnitudeBound : Int := 400

/-- The nearest double, a tie going to the even neighbour. -/
def toFloat (decimal : Decimal) : Float :=
  if decimal.digits = 0 || decimal.magnitude < -magnitudeBound then 0.0
  else if magnitudeBound < decimal.magnitude then 1.0 / 0.0
  else Float.ofScientific decimal.digits (decimal.exponent < 0) decimal.exponent.natAbs

/-- Positional text: no exponent, and no point after a whole number. -/
def text (decimal : Decimal) : String :=
  let digits := (toString decimal.digits).toList
  let places := (-decimal.exponent).toNat
  if places = 0 then
    String.ofList (digits ++ List.replicate decimal.exponent.toNat '0')
  else
    let padded := List.replicate (places + 1 - digits.length) '0' ++ digits
    let whole := padded.length - places
    String.ofList (padded.take whole ++ '.' :: padded.drop whole)

end Decimal

end Calculator
