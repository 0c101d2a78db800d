import Calculator.Code.Basic
import Calculator.Tree.Walk

/-!
# Lowering programs to postfix code

A walk over the tree collects the code.  Every expression and grouping opens a
context; numbers go into the innermost one, and an expression adds its operator
just before it closes.  A closed context is emptied into the one around it, or
into the output if there is none, so a nested operand stays behind the operand
to its left.
-/

namespace Calculator

/-- Code collected so far: what has reached the output, and the contexts still
open with the innermost first. -/
structure Lowering where
  output : Code := []
  contexts : List Code := []
deriving Repr, Inhabited

namespace Lowering

def depth (lowering : Lowering) : Nat :=
  lowering.contexts.length

/-- Adds code to the innermost open context, or to the output if none is open. -/
def append (lowering : Lowering) (code : Code) : Lowering :=
  match lowering.contexts with
  | [] => { lowering with output := lowering.output ++ code }
  | innermost :: contexts => { lowering with contexts := (innermost ++ code) :: contexts }

def openContext (lowering : Lowering) : Lowering :=
  { lowering with contexts := [] :: lowering.contexts }

/-- Closes the innermost context; nothing happens if none is open. -/
def closeContext (lowering : Lowering) : Lowering :=
  match lowering.contexts with
  | [] => lowering
  | innermost :: contexts => { lowering with contexts }.append innermost

def appendNumber (lowering : Lowering) : Node → Lowering
  | .number literal => lowering.append [.number literal]
  | _ => lowering

def appendOperator (lowering : Lowering) : Node → Lowering
  | .statement (.expression operator _ _) => lowering.append [.operator operator]
  | _ => lowering

def visitor : Visitor Lowering :=
  Visitor.empty
    |>.onEnter .expression (fun lowering _ _ => lowering.openContext)
    |>.onExit .expression (fun lowering node _ => (lowering.appendOperator node).closeContext)
    |>.onEnter .grouping (fun lowering _ _ => lowering.openContext)
    |>.onExit .grouping (fun lowering _ _ => lowering.closeContext)
    |>.onEnter .number (fun lowering node _ => lowering.appendNumber node)

end Lowering

/-- The postfix code of a program. -/
def Program.lower (program : Program) : Code :=
  (walk Lowering.visitor (.program program) {}).output

end Calculator
