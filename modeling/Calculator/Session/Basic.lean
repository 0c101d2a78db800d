import Calculator.Code.Lowering
import Calculator.Grammar.Reader
import Calculator.Machine.Basic
import Calculator.Session.Failure
import Calculator.Session.Settings

/-!
# Sessions

A session evaluates one text after another under settings that may change in
between.  Each stage is dumped as soon as it has been reached, so the dumps of
the stages before a failure are never lost.
-/

namespace Calculator

/-- Every product of an evaluation that succeeded. -/
structure Trace where
  tokens : List Token
  program : Program
  code : Code
  values : List Float

namespace Trace

def stages (trace : Trace) : List Stage :=
  [.tokens trace.tokens, .tree trace.program, .code trace.code]

end Trace

/-- The dumps made on the way, and how the evaluation ended. -/
structure Evaluation where
  dumps : List String
  result : Except Failure Trace

namespace Evaluation

def values (evaluation : Evaluation) : Except Failure (List Float) :=
  evaluation.result.map Trace.values

end Evaluation

structure Session where
  settings : Settings := {}
  machine : Machine := {}
deriving Inhabited

namespace Session

def withGrammar (session : Session) (grammar : Grammar) : Session :=
  { session with settings := { session.settings with grammar } }

def evaluate (session : Session) (source : String) : Evaluation × Session :=
  let settings := session.settings
  let tokens := tokenize source
  let dumps := settings.emit [] (.tokens tokens)
  match parse source settings.grammar with
  | .error error => (⟨dumps, .error (.source error)⟩, session)
  | .ok program =>
      let dumps := settings.emit dumps (.tree program)
      let code := program.lower
      let dumps := settings.emit dumps (.code code)
      let (result, machine) := session.machine.run code
      let after := { session with machine }
      match result with
      | .error fault => (⟨dumps, .error (.evaluation fault)⟩, after)
      | .ok values => (⟨dumps, .ok ⟨tokens, program, code, values⟩⟩, after)

/-- Evaluates a file, given what reading its bytes came to. -/
def evaluateFile (session : Session) (content : Except FileError ByteArray) :
    Evaluation × Session :=
  match FileError.decode content with
  | .error error => (⟨[], .error (.file error)⟩, session)
  | .ok source => session.evaluate source

end Session

end Calculator
