import Calculator.Number.Shortest

/-!
# The text of a number

Finite numbers are written positionally with the fewest digits that read back
to the same double; zero keeps its sign.  There is one text for all not-a-number
values.
-/

namespace Calculator

namespace Number

/-- The text of a number without its sign bit. -/
def magnitudeText (exponent fraction : Nat) : String :=
  if exponent = 0 && fraction = 0 then "0"
  else if exponent = 2047 then "Infinity"
  else (Binary.ofFields exponent fraction).shortest.text

def text (value : Float) : String :=
  let bits := value.toBits.toNat
  let exponent := bits / Nat.pow 2 52 % Nat.pow 2 11
  let fraction := bits % Nat.pow 2 52
  if exponent = 2047 && fraction ≠ 0 then "NaN"
  else if bits / Nat.pow 2 63 = 1 then "-" ++ magnitudeText exponent fraction
  else magnitudeText exponent fraction

end Number

end Calculator
