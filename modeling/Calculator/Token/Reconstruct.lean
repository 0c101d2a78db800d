import Calculator.Token.Basic

/-!
# Rebuilding text from tokens

The text that a list of tokens came from is rebuilt by laying the token texts
over the source: what lies between two tokens is copied from the source, and so
is everything after the last token.  Tokens may be arbitrary, so the copied
stretch is cut off at the end of the source and is empty where tokens overlap.
-/

namespace Calculator

/-- The characters of `source` from `first` up to, not including, `last`. -/
def stretch (source : List Char) (first last : Nat) : List Char :=
  (source.drop first).take (last - first)

def layTokens (source : List Char) : Nat → List Token → List Char
  | cursor, [] => source.drop cursor
  | cursor, token :: tokens =>
      stretch source cursor token.start ++ token.text.toList ++
        layTokens source token.finish tokens

def reconstruct (tokens : List Token) (source : String) : String :=
  String.ofList (layTokens source.toList 0 tokens)

end Calculator
