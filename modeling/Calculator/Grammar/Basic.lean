/-!
# The two grammars

Programs can be read in two ways.  Under precedence, multiplication and division
bind tighter than addition and subtraction, and operators of one precedence group
to the left.  The right-recursive grammar has a single rule: a number, an operator
and all that follows, so every operator groups to the right.
-/

namespace Calculator

inductive Grammar where
  | precedence
  | rightRecursive
deriving DecidableEq, Repr, Inhabited

namespace Grammar

def name : Grammar → String
  | precedence => "precedence"
  | rightRecursive => "right"

/-- The grammar of a name; the second one has a long name as well. -/
def ofName? : String → Option Grammar
  | "precedence" => some precedence
  | "right" => some rightRecursive
  | "right-recursive" => some rightRecursive
  | _ => none

end Grammar

end Calculator
