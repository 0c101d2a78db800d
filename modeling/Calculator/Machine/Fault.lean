import Calculator.Operator

/-!
# Faults of the machine

What can go wrong when code is run.  A fault names the instruction it arose at
by its index in the code, counted from zero.
-/

namespace Calculator

inductive Fault where
  | stackUnderflow (index : Nat) (operator : Operator)
  | invalidNumber (index : Nat) (literal : String)
  | unbalancedStack (remaining : Nat)
deriving DecidableEq, Repr, Inhabited

namespace Fault

def text : Fault → String
  | stackUnderflow index operator =>
      "stack underflow: `" ++ operator.text ++ "` at instruction " ++ toString index ++
        " needs two operands"
  | invalidNumber index literal =>
      "invalid numeric literal `" ++ literal ++ "` at instruction " ++ toString index
  | unbalancedStack remaining =>
      "expected a single result, found " ++ toString remaining ++ " values on the stack"

end Fault

end Calculator
