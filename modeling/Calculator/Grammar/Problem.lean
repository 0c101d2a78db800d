import Calculator.SyntaxError

/-!
# What can go wrong while reading

A problem names the cause of a failure by the tokens involved.  It becomes an
error with a message and a place only once the limit and the source it is to be
reported against are known.
-/

namespace Calculator

/-- What the grammar asks for at some point. -/
inductive Expectation where
  | statement
  | numberOrGrouping
  | expression
  | operand
  | operator
  | singleExpression
  | closing (opening : Token)
deriving DecidableEq, Repr, Inhabited

namespace Expectation

def text : Expectation → String
  | statement => "an expression or `(`"
  | numberOrGrouping => "a number or `(`"
  | expression => "an expression"
  | operand => "an operand"
  | operator => "an operator"
  | singleExpression => "a grouping holding a single expression"
  | closing opening => "`)` to close `(` at offset " ++ toString opening.start

end Expectation

inductive Problem where
  | ambiguous (literal : Token)
  | unexpected (expected : Expectation) (found : Token)
  | ended (expected : Expectation)
  | tooDeep (token : Token)
deriving DecidableEq, Repr, Inhabited

namespace Problem

/-- The problem of an expectation that the next token, if any, does not meet. -/
def missing (expected : Expectation) : List Token → Problem
  | [] => ended expected
  | token :: _ => unexpected expected token

def kind : Problem → ErrorKind
  | ambiguous _ => .lexicalAmbiguity
  | unexpected .. => .unexpectedToken
  | ended _ => .unexpectedEnding
  | tooDeep _ => .nestingTooDeep

/-- The error of a problem met under a nesting limit in text that ends at
`finish`. -/
def error (limit finish : Nat) (source : Option String) : Problem → SyntaxError
  | ambiguous literal => .lexicalAmbiguity literal source
  | unexpected expected found => .unexpectedToken expected.text found source
  | ended expected => .unexpectedEnding expected.text finish source
  | tooDeep token => .nestingTooDeep limit token source

end Problem

end Calculator
