import Calculator.Operator

/-!
# Tokens

A token is a kind, the text it was read from and the offset of its first
character.  Offsets and lengths count characters.  Nothing ties the kind to the
text: tokens may also be supplied by a caller, so every question about what a
token spells looks at both.
-/

namespace Calculator

inductive TokenKind where
  | number
  | operator
  | parenthesis
  | unknown
deriving DecidableEq, Repr, Inhabited

namespace TokenKind

def name : TokenKind → String
  | number => "Number"
  | operator => "Operator"
  | parenthesis => "Parenthesis"
  | unknown => "Unknown"

end TokenKind

structure Token where
  kind : TokenKind
  text : String
  start : Nat
deriving DecidableEq, Repr, Inhabited

namespace Token

def length (token : Token) : Nat :=
  token.text.length

/-- The offset just past the last character of the token. -/
def finish (token : Token) : Nat :=
  token.start + token.length

/-- The operator spelled by a token of kind `operator`, if its text is exactly
one operator symbol. -/
def operator? (token : Token) : Option Operator :=
  if token.kind = .operator then
    match token.text.toList with
    | [character] => Operator.ofSymbol? character
    | _ => none
  else none

def isLeftParen (token : Token) : Bool :=
  token.kind = .parenthesis && token.text = "("

def isRightParen (token : Token) : Bool :=
  token.kind = .parenthesis && token.text = ")"

/-- The number of dots in the text; a numeric literal may hold at most one. -/
def dots (token : Token) : Nat :=
  token.text.toList.count '.'

end Token

end Calculator
