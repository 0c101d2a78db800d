import Calculator.Number.Decimal

/-!
# Shortest decimals

A positive double is the whole number `mantissa` times a power of two, and it
stands for every real number that rounds to it.  Those form an interval around
it.  Among the decimals in the interval the shortest are those on the coarsest
grid of multiples of a power of ten that meets the interval at all, and there
one of the two grid points around the double is the nearest.  All comparisons
are between natural numbers, so nothing is rounded on the way.
-/

namespace Calculator

/-- A positive double, `mantissa * 2 ^ scale`.  A double is `narrow` if the next
one below is only half as far away as the next one above. -/
structure Binary where
  mantissa : Nat
  scale : Int
  narrow : Bool
deriving DecidableEq, Repr, Inhabited

namespace Binary

/-- The parts of a positive finite double, from its exponent and fraction fields. -/
def ofFields (exponent fraction : Nat) : Binary :=
  if exponent = 0 then ⟨fraction, -1074, false⟩
  else ⟨Nat.pow 2 52 + fraction, (exponent : Int) - 1075, fraction = 0 && 1 < exponent⟩

/-- Factors `a` and `b` such that `4 * mantissa * a` over `b` is the double in
units of `10 ^ exponent`.  The factor four leaves room for half and quarter
steps of the mantissa. -/
def factors (binary : Binary) (exponent : Int) : Nat × Nat :=
  let scale := binary.scale - 2
  (Nat.pow 2 scale.toNat * Nat.pow 10 (-exponent).toNat,
    Nat.pow 2 (-scale).toNat * Nat.pow 10 exponent.toNat)

/-- The ends of the interval belong to it exactly when the mantissa is even,
since a tie rounds to the even neighbour. -/
def below (binary : Binary) (left right : Nat) : Bool :=
  if binary.mantissa % 2 = 0 then left ≤ right else left < right

/-- The nearest multiple of `10 ^ exponent` that rounds to the double, if one of
its two neighbours among the multiples does; of two equally near the greater. -/
def onGrid? (binary : Binary) (exponent : Int) : Option Decimal :=
  let (numerator, unit) := binary.factors exponent
  let value := 4 * binary.mantissa * numerator
  let low := (4 * binary.mantissa - if binary.narrow then 1 else 2) * numerator
  let high := (4 * binary.mantissa + 2) * numerator
  let floor := value / unit
  let down := 0 < floor && binary.below low (floor * unit)
  let up := binary.below ((floor + 1) * unit) high
  if up && (!down || unit ≤ 2 * (value % unit)) then some ⟨floor + 1, exponent⟩
  else if down then some ⟨floor, exponent⟩
  else none

/-- Grids from coarse to fine, starting above the double: no double needs more
than seventeen digits, and none has its first digit after the 324th place. -/
def grids (binary : Binary) : List Int :=
  let whole := binary.mantissa * Nat.pow 2 binary.scale.toNat / Nat.pow 2 (-binary.scale).toNat
  let start := (toString whole).length
  (List.range (start + 345)).map fun step : Nat => (start : Int) - step

/-- The nearest of the shortest decimals that round to the double. -/
def shortest (binary : Binary) : Decimal :=
  (binary.grids.findSome? binary.onGrid?).getD ⟨binary.mantissa, 0⟩

end Binary

end Calculator
