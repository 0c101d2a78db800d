/-!
# Operators

The four binary operators of the calculator: how each is spelled, how tightly
it binds and what it computes on double precision numbers.
-/

namespace Calculator

inductive Operator where
  | add
  | subtract
  | multiply
  | divide
deriving DecidableEq, Repr, Inhabited

namespace Operator

def symbol : Operator → Char
  | add => '+'
  | subtract => '-'
  | multiply => '*'
  | divide => '/'

def ofSymbol? : Char → Option Operator
  | '+' => some add
  | '-' => some subtract
  | '*' => some multiply
  | '/' => some divide
  | _ => none

/-- Multiplication and division bind tighter than addition and subtraction. -/
def precedence : Operator → Nat
  | add | subtract => 1
  | multiply | divide => 2

def apply : Operator → Float → Float → Float
  | add, left, right => left + right
  | subtract, left, right => left - right
  | multiply, left, right => left * right
  | divide, left, right => left / right

def text (operator : Operator) : String :=
  String.singleton operator.symbol

@[simp]
theorem ofSymbol?_symbol (operator : Operator) :
    ofSymbol? operator.symbol = some operator := by
  cases operator <;> rfl

theorem symbol_eq_of_ofSymbol? {character : Char} {operator : Operator}
    (hspelled : ofSymbol? character = some operator) :
    operator.symbol = character := by
  unfold ofSymbol? at hspelled
  split at hspelled <;> simp_all [symbol] <;> cases hspelled <;> rfl

/-- A character spells an operator exactly when it is that operator's symbol. -/
theorem ofSymbol?_eq_some_iff {character : Char} {operator : Operator} :
    ofSymbol? character = some operator ↔ operator.symbol = character :=
  ⟨symbol_eq_of_ofSymbol?, fun hsymbol => hsymbol ▸ ofSymbol?_symbol operator⟩

theorem symbol_injective {left right : Operator}
    (heq : left.symbol = right.symbol) : left = right := by
  have hright := ofSymbol?_symbol right
  rw [← heq, ofSymbol?_symbol] at hright
  exact Option.some.inj hright

end Operator

end Calculator
