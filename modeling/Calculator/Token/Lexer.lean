import Calculator.Token.Basic
import Calculator.Token.CharClass

/-!
# Tokenizing

Source text is cut into tokens from left to right.  Whitespace only separates.
A digit starts a number, which runs on over digits and dots as far as it can;
every other character is a token of its own.  Tokenizing never fails: a
character outside the language becomes a token of kind `unknown`.
-/

namespace Calculator

/-- A position in source text: the characters still to be read and the offset
of the first of them. -/
structure Lexer where
  rest : List Char
  offset : Nat
deriving Repr, Inhabited

namespace Lexer

def ofSource (source : String) : Lexer :=
  ⟨source.toList, 0⟩

def skipWhitespace (lexer : Lexer) : Lexer :=
  ⟨lexer.rest.dropWhile CharClass.isWhitespace,
    lexer.offset + (lexer.rest.takeWhile CharClass.isWhitespace).length⟩

/-- The kind of a token made of one character that starts no number. -/
def singleKind (character : Char) : TokenKind :=
  if CharClass.isOperator character then .operator
  else if CharClass.isLeftParen character || CharClass.isRightParen character then .parenthesis
  else .unknown

/-- The token that starts at the next character, whitespace not being skipped. -/
def scan (lexer : Lexer) : Option (Token × Lexer) :=
  match lexer.rest with
  | [] => none
  | character :: tail =>
      if CharClass.isDigit character then
        let more := tail.takeWhile CharClass.continuesNumber
        some (⟨.number, String.ofList (character :: more), lexer.offset⟩,
          ⟨tail.dropWhile CharClass.continuesNumber, lexer.offset + 1 + more.length⟩)
      else
        some (⟨singleKind character, String.singleton character, lexer.offset⟩,
          ⟨tail, lexer.offset + 1⟩)

def next? (lexer : Lexer) : Option (Token × Lexer) :=
  lexer.skipWhitespace.scan

theorem length_dropWhile_le (test : Char → Bool) (characters : List Char) :
    (characters.dropWhile test).length ≤ characters.length :=
  (List.dropWhile_sublist test).length_le

theorem length_skipWhitespace_le (lexer : Lexer) :
    lexer.skipWhitespace.rest.length ≤ lexer.rest.length :=
  length_dropWhile_le _ _

/-- Every token consumes at least one character. -/
theorem scan_rest_length_lt {lexer after : Lexer} {token : Token}
    (hscan : lexer.scan = some (token, after)) :
    after.rest.length < lexer.rest.length := by
  unfold scan at hscan
  split at hscan
  · simp at hscan
  · rename_i character tail hrest
    have htail := length_dropWhile_le CharClass.continuesNumber tail
    split at hscan
    · obtain ⟨rfl, rfl⟩ : _ ∧ _ := by simpa using hscan
      simp only [hrest, List.length_cons]
      omega
    · obtain ⟨rfl, rfl⟩ : _ ∧ _ := by simpa using hscan
      simp [hrest]

theorem next?_rest_length_lt {lexer after : Lexer} {token : Token}
    (hnext : lexer.next? = some (token, after)) :
    after.rest.length < lexer.rest.length :=
  Nat.lt_of_lt_of_le (scan_rest_length_lt hnext) (length_skipWhitespace_le lexer)

/-- All tokens from here to the end of the text. -/
def tokens (lexer : Lexer) : List Token :=
  match hnext : lexer.next? with
  | none => []
  | some (token, after) =>
      have _hshorter := next?_rest_length_lt hnext
      token :: after.tokens
termination_by lexer.rest.length

end Lexer

def tokenize (source : String) : List Token :=
  (Lexer.ofSource source).tokens

end Calculator
