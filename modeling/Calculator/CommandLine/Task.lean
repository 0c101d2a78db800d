import Calculator.CommandLine.Basic
import Calculator.Console.Conversation
import Calculator.Session.Folder

/-!
# Tasks of the program

A command line asks for one task: a file comes before an expression, and an
expression before the console.  A response holds everything that the program
writes and the number it exits with.
-/

namespace Calculator

inductive Task where
  | evaluateFile (path : String)
  | evaluate (source : String)
  | converse
  | showUsage
deriving DecidableEq, Repr, Inhabited

def CommandLine.task (line : CommandLine) : Task :=
  match line.file, line.expression with
  | some path, _ => .evaluateFile path
  | none, some source => .evaluate source
  | none, none => if line.flags.contains .console then .converse else .showUsage

structure Response where
  outputs : List Output
  exit : Nat := 0
deriving DecidableEq, Repr, Inhabited

namespace Response

def usage : Response where
  outputs :=
    [.result ("calc " ++ Console.version ++ "\n\nUsage:\n" ++
      "  calc --eval <EXPR>     Evaluate an inline expression\n" ++
      "  calc --file <FILE>     Evaluate the expressions in a file\n" ++
      "  calc --repl            Start interactive REPL\n\n" ++
      "Run 'calc --help' for more options.\n")]

def help : Response where
  outputs :=
    [.result ("Compile and evaluate arithmetic expressions\n\nUsage: calc [OPTIONS]\n\nOptions:\n" ++
      "  -e, --eval <EXPR>        Evaluate an inline expression\n" ++
      "  -f, --file <FILE>        Evaluate the expressions in a file\n" ++
      "  -r, --repl               Start the interactive REPL\n" ++
      "      --grammar <GRAMMAR>  Operator semantics: precedence or right\n" ++
      "      --print-tokens       Print the token stream before parsing\n" ++
      "      --print-ast          Print the AST before lowering\n" ++
      "      --print-postfix      Print the postfix instructions before evaluation\n" ++
      "      --json               Render dumps and results as JSON\n" ++
      "  -h, --help               Print help\n" ++
      "  -V, --version            Print version\n")]

def misuseText : UsageError → String
  | .unknownArgument => "error: unexpected argument found"
  | .invalidValue => "error: a value is missing or not one of those allowed"
  | .unwantedValue => "error: a value was given to an option that takes none"
  | .repeated => "error: an option was given more than once"

def ofStop : Stop → Response
  | .help => help
  | .version => ⟨[Output.resultLine ("calc " ++ Console.version)], 0⟩
  | .misuse error =>
      ⟨[Output.diagnosticLine (misuseText error ++ "\n\nUsage: calc [OPTIONS]\n\n" ++
        "For more information, try '--help'.")], 2⟩

/-- The response to a finished evaluation. -/
def ofEvaluation (settings : Settings) (evaluation : Evaluation) : Response :=
  let dumps := evaluation.dumps.map Output.resultLine
  match evaluation.values with
  | .ok values => ⟨dumps ++ Output.resultLineUnlessEmpty (settings.results values), 0⟩
  | .error failure => ⟨dumps ++ [Output.diagnosticLine failure.report], 1⟩

/-- The response to the evaluation of a file; one that cannot be read is named. -/
def ofFile (settings : Settings) (path : String) (evaluation : Evaluation) : Response :=
  match evaluation.result with
  | .error (.file error) =>
      ⟨[Output.diagnosticLine ("Error: Could not read file '" ++ path ++ "': " ++ error.text)], 1⟩
  | _ => ofEvaluation settings evaluation

/-- How the program ends after the console has failed. -/
def consoleFailure : Failure → Output
  | .console message => Output.diagnosticLine ("Error: Repl(\"" ++ message ++ "\")")
  | failure => Output.diagnosticLine ("Error: " ++ failure.text)

def ofConversation (conversation : Conversation) : Response :=
  match conversation.failure with
  | none => ⟨conversation.outputs, 0⟩
  | some failure => ⟨conversation.outputs ++ [consoleFailure failure], 1⟩

end Response

namespace Task

/-- Carries a task out in a folder with a given input. -/
def run (settings : Settings) (folder : Folder) (input : ByteArray) : Task → Response
  | evaluateFile path =>
      .ofFile settings path ((Session.mk settings {}).evaluateFile (folder.read input path)).1
  | evaluate source => .ofEvaluation settings ((Session.mk settings {}).evaluate source).1
  | converse => .ofConversation ((Session.mk settings {}).converse input)
  | showUsage => .usage

end Task

/-- The whole program. -/
def calculate (arguments : List String) (folder : Folder) (input : ByteArray) : Response :=
  match CommandLine.read arguments with
  | .error stop => .ofStop stop
  | .ok line => line.task.run line.settings folder input

end Calculator
