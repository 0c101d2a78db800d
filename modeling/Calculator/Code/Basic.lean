import Calculator.Text.Json
import Calculator.Operator

/-!
# Postfix code

Code is a list of instructions for a stack machine: push a number, or replace
the two topmost values by the result of an operator.  How much stack a piece of
code needs, and how many values it leaves, can be told without running it.
-/

namespace Calculator

inductive Instruction where
  | number (literal : String)
  | operator (operator : Operator)
deriving DecidableEq, Repr, Inhabited

namespace Instruction

def isOperator : Instruction → Bool
  | number _ => false
  | operator _ => true

/-- By how much the instruction changes the height of the stack. -/
def stackEffect : Instruction → Int
  | number _ => 1
  | operator _ => -1

def text : Instruction → String
  | .number literal => literal
  | .operator symbol => symbol.text

def json : Instruction → Json
  | .number literal => .object [("number", .string literal)]
  | .operator symbol => .object [("operator", .string symbol.text)]

end Instruction

abbrev Code := List Instruction

namespace Code

def text (code : Code) : String :=
  " ".intercalate (code.map Instruction.text)

def json (code : Code) : Json :=
  .array (code.map Instruction.json)

/-- The greatest height the stack reaches when the code starts at `height` and
`greatest` was the greatest before; `none` if an operator finds fewer than two
values. -/
def peak? : Code → (height greatest : Nat) → Option Nat
  | [], _, greatest => some greatest
  | .number _ :: code, height, greatest =>
      peak? code (height + 1) (max greatest (height + 1))
  | .operator _ :: code, height, greatest =>
      if height < 2 then none else peak? code (height - 1) greatest

/-- The greatest height the stack reaches when the code is run from an empty
stack; `none` if some operator would find fewer than two values. -/
def maxStackDepth (code : Code) : Option Nat :=
  peak? code 0 0

/-- By how much the code changes the height of the stack. -/
def netEffect : Code → Int
  | [] => 0
  | instruction :: code => instruction.stackEffect + netEffect code

/-- The number of values the code leaves behind; `none` if some operator would
find fewer than two values. -/
def resultCount (code : Code) : Option Nat :=
  match code.maxStackDepth with
  | none => none
  | some _ => if code.netEffect < 0 then none else some code.netEffect.toNat

end Code

end Calculator
