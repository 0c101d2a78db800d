import Calculator.Tree.Basic

/-!
# Nodes

A node is any part of a program that can be looked at on its own.  There are
five kinds.  The operator of an expression is a node, but not one of the
children of the expression.
-/

namespace Calculator

inductive NodeKind where
  | program
  | expression
  | grouping
  | number
  | operator
deriving DecidableEq, Repr, Inhabited

namespace NodeKind

def name : NodeKind → String
  | program => "Program"
  | expression => "ExpressionStatement"
  | grouping => "GroupingStatement"
  | number => "NumberLiteral"
  | operator => "OperandLiteral"

end NodeKind

inductive Node where
  | program (program : Program)
  | statement (statement : Statement)
  | number (literal : String)
  | operator (operator : Operator)

namespace Statement

def kind : Statement → NodeKind
  | expression .. => .expression
  | grouping _ => .grouping

end Statement

namespace Node

instance : Inhabited Node := ⟨.number ""⟩

def ofOperand : Operand → Node
  | .number literal => number literal
  | .nested nested => statement nested

def kind : Node → NodeKind
  | program _ => .program
  | statement inner => inner.kind
  | number _ => .number
  | operator _ => .operator

/-- The children in the order in which they are stored. -/
def children : Node → List Node
  | program root => root.body.map statement
  | statement (.expression _ left right) => [ofOperand left, ofOperand right]
  | statement (.grouping body) => body.map statement
  | number _ => []
  | operator _ => []

def size : Node → Nat
  | program root => Statement.totalSize root.body + 1
  | statement inner => inner.size
  | number _ => 1
  | operator _ => 1

def totalSize : List Node → Nat
  | [] => 0
  | node :: nodes => node.size + totalSize nodes

def text : Node → String
  | program root => root.text
  | statement inner => inner.text
  | number literal => literal
  | operator symbol => symbol.text

@[simp]
theorem size_ofOperand (operand : Operand) : (ofOperand operand).size = operand.size := by
  cases operand <;> simp [ofOperand, size, Operand.size]

@[simp]
theorem totalSize_statements (body : List Statement) :
    totalSize (body.map statement) = Statement.totalSize body := by
  induction body with
  | nil => rfl
  | cons head tail ih => rw [List.map_cons, totalSize, ih, size, Statement.totalSize]

/-- A node is one larger than its children together. -/
theorem size_eq (node : Node) : node.size = totalSize node.children + 1 := by
  match node with
  | program root => rw [children, totalSize_statements, size]
  | statement (.expression _ left right) =>
      simp only [children, totalSize, size_ofOperand, Nat.add_zero]
      rfl
  | statement (.grouping body) => rw [children, totalSize_statements, size, Statement.size]
  | number literal => rfl
  | operator symbol => rfl

end Node

end Calculator
