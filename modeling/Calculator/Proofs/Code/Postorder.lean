import Calculator.Code.Lowering
import Calculator.Proofs.Tree.Traversal

/-!
# Lowering is postorder

The code of a tree is the code of its parts from left to right, with the operator
of an expression behind its operands and no trace of groupings.  Lowering collects
just this code: visiting a tree adds its postorder to the innermost open context
and leaves everything around that context as it was.
-/

namespace Calculator

mutual

def Operand.postorder : Operand → Code
  | .number literal => [.number literal]
  | .nested statement => statement.postorder

def Statement.postorder : Statement → Code
  | .expression operator left right =>
      left.postorder ++ right.postorder ++ [.operator operator]
  | .grouping body => Statement.postorderEach body

def Statement.postorderEach : List Statement → Code
  | [] => []
  | statement :: statements => statement.postorder ++ Statement.postorderEach statements

end

def Program.postorder (program : Program) : Code :=
  Statement.postorderEach program.body

@[simp]
theorem Statement.postorderEach_append (first second : List Statement) :
    postorderEach (first ++ second) = postorderEach first ++ postorderEach second := by
  induction first with
  | nil => rfl
  | cons statement statements ih =>
      rw [List.cons_append, postorderEach, postorderEach, ih, List.append_assoc]

namespace Lowering

@[simp]
theorem append_nil (lowering : Lowering) : lowering.append [] = lowering := by
  obtain ⟨output, contexts⟩ := lowering
  cases contexts <;> simp [append]

@[simp]
theorem append_append (lowering : Lowering) (first second : Code) :
    (lowering.append first).append second = lowering.append (first ++ second) := by
  obtain ⟨output, contexts⟩ := lowering
  cases contexts <;> simp [append]

/-- What is added between opening a context and closing it goes to the place that
was innermost before. -/
@[simp]
theorem closeContext_append_openContext (lowering : Lowering) (code : Code) :
    (lowering.openContext.append code).closeContext = lowering.append code := rfl

mutual

theorem visit_operand (parent : Option Node) : ∀ (operand : Operand) (lowering : Lowering),
    operand.visit visitor parent lowering = lowering.append operand.postorder
  | .number _, _ => rfl
  | .nested statement, lowering => visit_statement parent statement lowering

theorem visit_statement (parent : Option Node) : ∀ (statement : Statement) (lowering : Lowering),
    statement.visit visitor parent lowering = lowering.append statement.postorder
  | .expression operator left right, lowering => by
      have hleft := visit_operand (some (.statement (.expression operator left right))) left
      have hright := visit_operand (some (.statement (.expression operator left right))) right
      calc (Statement.expression operator left right).visit visitor parent lowering
          = ((right.visit visitor _ (left.visit visitor _ lowering.openContext)).append
              [.operator operator]).closeContext := rfl
        _ = (lowering.openContext.append
              (left.postorder ++ right.postorder ++ [.operator operator])).closeContext := by
            rw [hleft, hright, append_append, append_append, List.append_assoc]
        _ = lowering.append (Statement.expression operator left right).postorder :=
            closeContext_append_openContext lowering _
  | .grouping body, lowering => by
      have hbody := visit_each (some (.statement (.grouping body))) body
      calc (Statement.grouping body).visit visitor parent lowering
          = (Statement.visitEach visitor _ body lowering.openContext).closeContext := rfl
        _ = (lowering.openContext.append (Statement.postorderEach body)).closeContext := by
            rw [hbody]
        _ = lowering.append (Statement.grouping body).postorder :=
            closeContext_append_openContext lowering _

theorem visit_each (parent : Option Node) : ∀ (body : List Statement) (lowering : Lowering),
    Statement.visitEach visitor parent body lowering =
      lowering.append (Statement.postorderEach body)
  | [], lowering => (append_nil lowering).symm
  | statement :: statements, lowering => by
      rw [Statement.visitEach, visit_statement parent statement, visit_each parent statements,
        append_append]
      rfl

end

end Lowering

/-- The code of a program is its postorder. -/
theorem Program.lower_eq_postorder (program : Program) : program.lower = program.postorder := by
  have hvisit : walk Lowering.visitor (.program program) {} =
      Statement.visitEach Lowering.visitor (some (.program program)) program.body {} := by
    rw [walk, Walk.run_enter, Walk.run]
    rfl
  rw [lower, hvisit, Lowering.visit_each]
  rfl

end Calculator
