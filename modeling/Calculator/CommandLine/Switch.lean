/-!
# Switches of the command line

A switch either takes a value or stands alone.  Some have a short name of one
letter beside the long one.
-/

namespace Calculator

/-- Switches that take a value. -/
inductive Parameter where
  | expression
  | file
  | grammar
deriving DecidableEq, Repr, Inhabited

/-- Switches that stand alone. -/
inductive Flag where
  | console
  | printTokens
  | printTree
  | printCode
  | json
deriving DecidableEq, Repr, Inhabited

inductive Switch where
  | parameter (parameter : Parameter)
  | flag (flag : Flag)
  | help
  | version
deriving DecidableEq, Repr, Inhabited

namespace Switch

def ofLongName? : String → Option Switch
  | "eval" => some (parameter .expression)
  | "file" => some (parameter .file)
  | "grammar" => some (parameter .grammar)
  | "repl" => some (flag .console)
  | "print-tokens" => some (flag .printTokens)
  | "print-ast" => some (flag .printTree)
  | "print-postfix" => some (flag .printCode)
  | "json" => some (flag .json)
  | "help" => some help
  | "version" => some version
  | _ => none

def ofShortName? : Char → Option Switch
  | 'e' => some (parameter .expression)
  | 'f' => some (parameter .file)
  | 'r' => some (flag .console)
  | 'h' => some help
  | 'V' => some version
  | _ => none

end Switch

end Calculator
