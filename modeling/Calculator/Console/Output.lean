/-!
# Output

Text goes to one of two places: what was asked for, and what went wrong.
-/

namespace Calculator

inductive Output where
  | result (text : String)
  | diagnostic (text : String)
deriving DecidableEq, Repr, Inhabited

namespace Output

def resultLine (text : String) : Output :=
  result (text ++ "\n")

def diagnosticLine (text : String) : Output :=
  diagnostic (text ++ "\n")

/-- A line of results, or nothing at all if there is none to show. -/
def resultLineUnlessEmpty (text : String) : List Output :=
  if text = "" then [] else [resultLine text]

def results (outputs : List Output) : String :=
  String.join (outputs.map fun
    | result text => text
    | diagnostic _ => "")

def diagnostics (outputs : List Output) : String :=
  String.join (outputs.map fun
    | result _ => ""
    | diagnostic text => text)

end Output

end Calculator
