import Calculator.Operator

/-!
# Programs

A program is a list of statements.  A statement is an expression, one operator
between two operands, or a grouping, a parenthesized list of statements.  An
operand is a number or a statement in its own right.  Numbers are kept as the
text they were written in; nothing in the tree says that this text is numeric.
-/

namespace Calculator

mutual

inductive Operand where
  | number (literal : String)
  | nested (statement : Statement)

inductive Statement where
  | expression (operator : Operator) (left right : Operand)
  | grouping (body : List Statement)

end

structure Program where
  body : List Statement

instance : Inhabited Operand := ⟨.number ""⟩

instance : Inhabited Statement := ⟨.grouping []⟩

instance : Inhabited Program := ⟨⟨[]⟩⟩

mutual

/-- The number of nodes of a tree, operators not counted. -/
def Operand.size : Operand → Nat
  | .number _ => 1
  | .nested statement => statement.size

def Statement.size : Statement → Nat
  | .expression _ left right => left.size + right.size + 1
  | .grouping body => Statement.totalSize body + 1

def Statement.totalSize : List Statement → Nat
  | [] => 0
  | statement :: statements => statement.size + Statement.totalSize statements

end

/-! ### Text

Expressions stand in round brackets and groupings in square ones, so the text
shows how the program was read.  Text is written in front of the text that
follows it, from the end of the program to its start. -/

mutual

def Operand.writeBefore : Operand → List Char → List Char
  | .number literal, rest => literal.toList ++ rest
  | .nested statement, rest => statement.writeBefore rest

def Statement.writeBefore : Statement → List Char → List Char
  | .expression operator left right, rest =>
      '(' :: left.writeBefore (' ' :: operator.symbol :: ' ' :: right.writeBefore (')' :: rest))
  | .grouping body, rest => '[' :: Statement.writeEachBefore [';', ' '] body (']' :: rest)

/-- Statements with a separator between each two. -/
def Statement.writeEachBefore (separator : List Char) : List Statement → List Char → List Char
  | [], rest => rest
  | [statement], rest => statement.writeBefore rest
  | statement :: next :: statements, rest =>
      statement.writeBefore
        (separator ++ Statement.writeEachBefore separator (next :: statements) rest)

end

def Operand.text (operand : Operand) : String :=
  String.ofList (operand.writeBefore [])

def Statement.text (statement : Statement) : String :=
  String.ofList (statement.writeBefore [])

/-- One statement to a line. -/
def Program.text (program : Program) : String :=
  String.ofList (Statement.writeEachBefore ['\n'] program.body [])

end Calculator
