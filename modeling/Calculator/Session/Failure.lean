import Calculator.Machine.Fault
import Calculator.Session.File
import Calculator.SyntaxError

/-!
# Failures of a session

Whatever ends an evaluation early, from whichever stage it comes.
-/

namespace Calculator

inductive Failure where
  | source (error : SyntaxError)
  | evaluation (fault : Fault)
  | file (error : FileError)
  | console (message : String)
deriving DecidableEq, Repr, Inhabited

namespace Failure

def text : Failure → String
  | source error => "Syntax error: " ++ error.text
  | evaluation fault => "Evaluation error: " ++ fault.text
  | file error => "File error: " ++ error.text
  | console message => "REPL error: " ++ message

/-- The text, with an excerpt of the source where there is one. -/
def report : Failure → String
  | source error => "Syntax error: " ++ error.report
  | failure => failure.text

/-- More input could turn the text into a program. -/
def isIncomplete : Failure → Bool
  | source error => error.isIncomplete
  | _ => false

end Failure

end Calculator
