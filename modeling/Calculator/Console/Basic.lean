import Calculator.Console.Command
import Calculator.Console.Output

/-!
# The console

The console takes one line at a time.  A text that could still become a program
is held back and the next lines are added to it, until it can be evaluated or a
blank line submits it as it is.  While a text is held back no line is a command.
-/

namespace Calculator

/-- A session, and the text held back if there is one. -/
structure Console where
  session : Session := {}
  pending : Option String := none
deriving Inhabited

/-- What a line led to. -/
structure Turn where
  outputs : List Output
  console : Console
  closed : Bool := false
deriving Inhabited

namespace Console

def version : String := "0.1.0"

def banner : Output :=
  .result ("calc " ++ version ++
    "\nType an expression, .help for commands, or .exit to quit.\n\n")

def prompt (console : Console) : Output :=
  .result (if console.pending.isSome then "... " else "> ")

/-- No parenthesis is left open, going by their numbers alone.  Too many closing
ones are for the grammar to complain about. -/
def parensClosed (text : String) : Bool :=
  text.toList.count '(' ≤ text.toList.count ')'

def hold (console : Console) (text : String) : Console :=
  { console with pending := some text }

/-- Evaluates a text unless it is to be held back; `final` says that it may not
be. -/
def submit (console : Console) (text : String) (final : Bool) : Turn :=
  if !final && !parensClosed text then ⟨[], console.hold text, false⟩
  else
    let (evaluation, session) := console.session.evaluate text
    let dumps := evaluation.dumps.map Output.resultLine
    match evaluation.result with
    | .ok trace =>
        ⟨dumps ++ Output.resultLineUnlessEmpty (session.settings.results trace.values),
          ⟨session, none⟩, false⟩
    | .error failure =>
        if failure.isIncomplete && !final then ⟨dumps, ⟨session, some text⟩, false⟩
        else ⟨dumps ++ [Output.diagnosticLine failure.report], ⟨session, none⟩, false⟩

/-- Takes a line while no text is held back. -/
def takeFirst (console : Console) (line : String) : Turn :=
  let text := Text.trim line.toList
  if text = [] then ⟨[], console, false⟩
  else if text = ".exit".toList then ⟨[.result "Goodbye!\n"], console, true⟩
  else if text.head? = some '.' then
    let (answer, session) := (ConsoleCommand.ofText text).run console.session
    ⟨[Output.resultLine answer], { console with session }, false⟩
  else console.submit line false

def take (console : Console) (line : String) : Turn :=
  match console.pending with
  | none => console.takeFirst line
  | some text => console.submit (text ++ "\n" ++ line) (Text.trim line.toList = [])

end Console

end Calculator
