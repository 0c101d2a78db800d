import Calculator.Source.Excerpt
import Calculator.Source.Position
import Calculator.Token.Basic

/-!
# Errors of the front end

Reading stops at the first violation, so an error names one place.  When the
source is at hand the error also carries the line and column of that place and
an excerpt; without it only the offset is known.
-/

namespace Calculator

inductive ErrorKind where
  | lexicalAmbiguity
  | unexpectedToken
  | unexpectedEnding
  | nestingTooDeep
deriving DecidableEq, Repr, Inhabited

namespace ErrorKind

def text : ErrorKind → String
  | lexicalAmbiguity => "lexical ambiguity"
  | unexpectedToken => "unexpected token"
  | unexpectedEnding => "unexpected ending"
  | nestingTooDeep => "nesting too deep"

end ErrorKind

structure SyntaxError where
  kind : ErrorKind
  message : String
  offset : Nat
  position : Option Position
  excerpt : Option String
deriving DecidableEq, Repr, Inhabited

namespace SyntaxError

/-- An error about `length` characters at `offset`. -/
def located (kind : ErrorKind) (message : String) (offset length : Nat)
    (source : Option String) : SyntaxError :=
  { kind, message, offset
    position := source.map (Position.ofOffset · offset)
    excerpt := source.map (Calculator.excerpt · offset length) }

def atToken (kind : ErrorKind) (message : String) (token : Token)
    (source : Option String) : SyntaxError :=
  located kind message token.start token.length source

def unexpectedToken (expected : String) (found : Token) (source : Option String) : SyntaxError :=
  atToken .unexpectedToken ("expected " ++ expected ++ ", got `" ++ found.text ++ "`") found source

def unexpectedEnding (expected : String) (offset : Nat) (source : Option String) : SyntaxError :=
  located .unexpectedEnding ("expected " ++ expected ++ ", got end of input") offset 0 source

def lexicalAmbiguity (literal : Token) (source : Option String) : SyntaxError :=
  atToken .lexicalAmbiguity
    ("numeric literal `" ++ literal.text ++ "` has more than one decimal point") literal source

def nestingMessage (limit : Nat) : String :=
  "expression nests deeper than " ++ toString limit ++ " levels"

def nestingTooDeep (limit : Nat) (token : Token) (source : Option String) : SyntaxError :=
  atToken .nestingTooDeep (nestingMessage limit) token source

/-- More input could complete the text. -/
def isIncomplete (error : SyntaxError) : Bool :=
  error.kind = .unexpectedEnding

def place (error : SyntaxError) : String :=
  match error.position with
  | some position => position.text
  | none => "offset " ++ toString error.offset

/-- The error on one line. -/
def text (error : SyntaxError) : String :=
  error.kind.text ++ ": " ++ error.message ++ " at " ++ error.place

/-- The error followed by its excerpt, if it has one. -/
def report (error : SyntaxError) : String :=
  match error.excerpt with
  | some excerpt => error.text ++ "\n" ++ excerpt
  | none => error.text

end SyntaxError

end Calculator
