import Calculator.Session.Basic
import Calculator.Text.Blank

/-!
# Console commands

Outside an unfinished text, a line that starts with a dot is a command.  Its
first two words count and the rest is ignored.
-/

namespace Calculator

inductive ConsoleCommand where
  | help
  | showGrammar
  | setGrammar (name : String)
  | unknown (text : String)
deriving DecidableEq, Repr, Inhabited

namespace ConsoleCommand

/-- The command that a line, blanks at its ends taken away, stands for. -/
def ofText (text : List Char) : ConsoleCommand :=
  let (name, rest) := Text.cutWord text
  let argument := (Text.cutWord rest).1
  if name = ".help".toList then help
  else if name = ".grammar".toList then
    if argument = [] then showGrammar else setGrammar (String.ofList argument)
  else unknown (String.ofList text)

def helpText : String :=
  "\n".intercalate
    ["REPL Commands:",
      "  .help              - Show this help message",
      "  .grammar           - Show the active grammar",
      "  .grammar <name>    - Switch grammar (precedence, right)",
      "  .exit              - Exit the REPL"]

def grammarText (grammar : Grammar) : String :=
  "Grammar: " ++ grammar.name

/-- The answer to a command.  Names of grammars are taken in any case. -/
def run (session : Session) : ConsoleCommand → String × Session
  | help => (helpText, session)
  | showGrammar => (grammarText session.settings.grammar, session)
  | setGrammar name =>
      match Grammar.ofName? (String.ofList (name.toList.map Char.toLower)) with
      | some grammar => (grammarText grammar, session.withGrammar grammar)
      | none => ("Unknown grammar: " ++ name ++ " (expected precedence or right)", session)
  | unknown text =>
      ("Unknown command: " ++ text ++ "\nType .help for available commands", session)

end ConsoleCommand

end Calculator
