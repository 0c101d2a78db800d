import Calculator.Operator

/-!
# Character classes

The tokenizer looks at one character at a time and only asks which of seven
classes it belongs to.  The classes are disjoint, so the order in which they
are tried below does not matter.
-/

namespace Calculator

inductive CharClass where
  | whitespace
  | digit
  | dot
  | operator
  | leftParen
  | rightParen
  | unknown
deriving DecidableEq, Repr, Inhabited

namespace CharClass

/-- The four characters that separate tokens; no other blank counts. -/
def isWhitespace (character : Char) : Bool :=
  character == ' ' || character == '\t' || character == '\n' || character == '\r'

def isDigit (character : Char) : Bool :=
  '0' ≤ character && character ≤ '9'

def isDot (character : Char) : Bool :=
  character == '.'

def isOperator (character : Char) : Bool :=
  (Operator.ofSymbol? character).isSome

def isLeftParen (character : Char) : Bool :=
  character == '('

def isRightParen (character : Char) : Bool :=
  character == ')'

/-- Digits and dots continue a number once a digit has started it. -/
def continuesNumber (character : Char) : Bool :=
  isDigit character || isDot character

def of (character : Char) : CharClass :=
  if isWhitespace character then whitespace
  else if isDigit character then digit
  else if isDot character then dot
  else if isOperator character then operator
  else if isLeftParen character then leftParen
  else if isRightParen character then rightParen
  else unknown

/-- The membership tests, each beside the class it tests for. -/
def tests : List (CharClass × (Char → Bool)) :=
  [(whitespace, isWhitespace), (digit, isDigit), (dot, isDot), (operator, isOperator),
    (leftParen, isLeftParen), (rightParen, isRightParen)]

end CharClass

end Calculator
