import Calculator.Grammar.Production
import Calculator.Token.Lexer

/-!
# Readers

A reader holds a list of tokens together with what is needed to read it as a
program and to report on it: the grammar, the nesting limit and, if known, the
source the tokens came from.  It can be read any number of times and with
changed settings in between; where the last reading stopped stays visible.
-/

namespace Calculator

structure Reader where
  tokens : List Token
  source : Option String := none
  grammar : Grammar := .precedence
  limit : Nat := 256
  stopped : Cursor := ⟨tokens, 0⟩
deriving Repr, Inhabited

namespace Reader

def ofTokens (tokens : List Token) : Reader :=
  { tokens }

def ofSource (source : String) : Reader :=
  { tokens := tokenize source, source := some source }

/-- The offset at which the input ends: that of the source if it is known, else
that of the last token. -/
def finish (reader : Reader) : Nat :=
  match reader.source with
  | some source => source.length
  | none => (reader.tokens.getLast?.map Token.finish).getD 0

def rules (reader : Reader) : Rules :=
  ⟨reader.grammar, reader.limit⟩

def outcome (reader : Reader) : Outcome Program :=
  Production.program reader.rules reader.tokens

/-- Reads the tokens from the first one on.  Being cut off would count as
nesting too deep, since the budget is made to fit the nesting limit. -/
def read (reader : Reader) : Except SyntaxError Program × Reader :=
  match reader.outcome with
  | .ok program cursor => (.ok program, { reader with stopped := cursor })
  | .failed problem cursor =>
      (.error (problem.error reader.limit reader.finish reader.source),
        { reader with stopped := cursor })
  | .exhausted =>
      (.error (.located .nestingTooDeep (SyntaxError.nestingMessage reader.limit) reader.finish 0
        reader.source), reader)

def program (reader : Reader) : Except SyntaxError Program :=
  reader.read.1

/-- The token `count` places after the one at which the last reading stopped. -/
def lookahead (reader : Reader) (count : Nat) : Option Token :=
  reader.stopped.rest[count]?

end Reader

/-- Reads source text as a program with the nesting limit that is usual. -/
def parse (source : String) (grammar : Grammar) : Except SyntaxError Program :=
  { Reader.ofSource source with grammar }.program

end Calculator
