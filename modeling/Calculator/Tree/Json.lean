import Calculator.Text.Json
import Calculator.Tree.Node

/-!
# The JSON form of a program

Every node becomes an object that names its type first.  A statement or number
that is written on its own, not as a part of something larger, leaves its type
out; programs and operators never do.
-/

namespace Calculator

namespace Json

/-- An object whose first field names the type. -/
def tagged (kind : NodeKind) (fields : List (String × Json)) : Json :=
  .object (("type", .string kind.name) :: fields)

end Json

def Operator.json (operator : Operator) : Json :=
  .tagged .operator [("value", .string operator.text)]

mutual

def Operand.json : Operand → Json
  | .number literal => .tagged .number [("value", .string literal)]
  | .nested statement => .tagged statement.kind statement.fields

/-- The fields of a statement besides its type. -/
def Statement.fields : Statement → List (String × Json)
  | .expression operator left right =>
      [("operator", operator.json), ("operands", .array [left.json, right.json])]
  | .grouping body => [("body", .array (Statement.jsonEach body))]

def Statement.jsonEach : List Statement → List Json
  | [] => []
  | statement :: statements =>
      .tagged statement.kind statement.fields :: Statement.jsonEach statements

end

def Program.json (program : Program) : Json :=
  .tagged .program [("body", .array (Statement.jsonEach program.body))]

/-- The form of a node that is written on its own. -/
def Node.json : Node → Json
  | .program root => root.json
  | .statement inner => .object inner.fields
  | .number literal => .object [("value", .string literal)]
  | .operator symbol => symbol.json

end Calculator
