import Calculator.Number.Decimal
import Calculator.Token.CharClass

/-!
# Reading numbers

A numeric text is a sign, if any, followed by a name of infinity or of
not-a-number in any case, or by decimal digits with at most one point among
them and an optional power of ten.  Nothing else is accepted, blanks included.
Source text only ever yields the plain form of digits and one point; the wider
form is what the machine accepts in a number instruction.
-/

namespace Calculator

inductive LiteralError where
  | empty
  | invalid
deriving DecidableEq, Repr, Inhabited

namespace LiteralError

def text : LiteralError → String
  | empty => "cannot parse float from empty string"
  | invalid => "invalid float literal"

end LiteralError

namespace Number

open CharClass (isDigit)

def digitsValue (digits : List Char) : Nat :=
  digits.foldl (fun value digit => 10 * value + (digit.toNat - 48)) 0

/-- Whether a minus sign stands in front, and what follows the sign. -/
def cutSign : List Char → Bool × List Char
  | '-' :: rest => (true, rest)
  | '+' :: rest => (false, rest)
  | characters => (false, characters)

/-- The digits after the point and what follows them, if there is a point. -/
def cutFraction : List Char → List Char × List Char
  | '.' :: rest => (rest.takeWhile isDigit, rest.dropWhile isDigit)
  | characters => ([], characters)

/-- The power of ten that ends a literal; no text at all stands for zero. -/
def exponent? : List Char → Option Int
  | [] => some 0
  | mark :: rest =>
      let (negative, digits) := cutSign rest
      if (mark = 'e' || mark = 'E') && !digits.isEmpty && digits.all isDigit then
        some (if negative then -(digitsValue digits : Int) else digitsValue digits)
      else none

def decimal? (characters : List Char) : Option Decimal :=
  let whole := characters.takeWhile isDigit
  let (fraction, rest) := cutFraction (characters.dropWhile isDigit)
  if whole.isEmpty && fraction.isEmpty then none
  else (exponent? rest).map fun exponent =>
    ⟨digitsValue (whole ++ fraction), exponent - fraction.length⟩

/-- The value of a numeric text that has no sign. -/
def unsigned? (characters : List Char) : Option Float :=
  let name := String.ofList (characters.map Char.toLower)
  if name = "inf" || name = "infinity" then some (1.0 / 0.0)
  else if name = "nan" then some (0.0 / 0.0)
  else (decimal? characters).map Decimal.toFloat

def read? (literal : String) : Option Float :=
  let (negative, characters) := cutSign literal.toList
  (unsigned? characters).map fun value => if negative then -value else value

def read (literal : String) : Except LiteralError Float :=
  match read? literal with
  | some value => .ok value
  | none => .error (if literal = "" then .empty else .invalid)

end Number

end Calculator
