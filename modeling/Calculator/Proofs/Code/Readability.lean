import Calculator.Proofs.Machine.Meaning

/-!
# Code can be read back

Code has no parentheses, and still nothing but parentheses is lost on the way to it.  A
program whose operands are single-valued can be written without groupings: those that
stand as statements are spliced into the list around them, and one that stands as an
operand gives way to the only expression in it.  This changes nothing about the code.
From the code, in turn, the program without groupings can be read back, by running the
code over a stack of trees in place of numbers: a literal pushes a leaf, and an operator
joins the two topmost trees.  So two programs have the same code just if they are the
same without groupings.
-/

namespace Calculator

/-! ### Programs without groupings -/

mutual

/-- An operand with the groupings in it taken away.  One that amounts to other than one
expression cannot do without the outermost. -/
def Operand.ungroup : Operand → Operand
  | .number literal => .number literal
  | .nested statement =>
      match statement.ungroup with
      | [expression] => .nested expression
      | expressions => .nested (.grouping expressions)

/-- The expressions that a statement amounts to. -/
def Statement.ungroup : Statement → List Statement
  | .expression operator left right => [.expression operator left.ungroup right.ungroup]
  | .grouping body => Statement.ungroupEach body

def Statement.ungroupEach : List Statement → List Statement
  | [] => []
  | statement :: statements => statement.ungroup ++ Statement.ungroupEach statements

end

def Program.ungroup (program : Program) : Program :=
  ⟨Statement.ungroupEach program.body⟩

mutual

def Operand.GroupingFree : Operand → Prop
  | .number _ => True
  | .nested statement => statement.GroupingFree

def Statement.GroupingFree : Statement → Prop
  | .expression _ left right => left.GroupingFree ∧ right.GroupingFree
  | .grouping _ => False

end

def Program.GroupingFree (program : Program) : Prop :=
  ∀ statement ∈ program.body, statement.GroupingFree

mutual

theorem Statement.length_ungroup : ∀ statement : Statement,
    statement.ungroup.length = statement.expressionCount
  | .expression .. => rfl
  | .grouping body => Statement.length_ungroupEach body

theorem Statement.length_ungroupEach : ∀ body : List Statement,
    (Statement.ungroupEach body).length = Statement.totalExpressionCount body
  | [] => rfl
  | statement :: statements => by
      rw [Statement.ungroupEach, List.length_append, Statement.length_ungroup statement,
        Statement.length_ungroupEach statements, Statement.totalExpressionCount]

end

mutual

theorem Operand.groupingFree_ungroup : ∀ {operand : Operand}, operand.SingleValued →
    operand.ungroup.GroupingFree
  | .number _, _ => trivial
  | .nested statement, hsingle => by
      have hlength : statement.ungroup.length = 1 := statement.length_ungroup.trans hsingle.1
      obtain ⟨expression, hexpression⟩ := List.length_eq_one_iff.1 hlength
      have hfree := Statement.groupingFree_ungroup hsingle.2
      rw [hexpression] at hfree
      rw [Operand.ungroup, hexpression]
      exact hfree expression List.mem_cons_self

/-- Single-valued operands leave no grouping behind. -/
theorem Statement.groupingFree_ungroup : ∀ {statement : Statement}, statement.SingleValued →
    ∀ expression ∈ statement.ungroup, expression.GroupingFree
  | .expression operator left right, hsingle, expression, hmem => by
      obtain rfl := List.mem_singleton.1 hmem
      exact ⟨Operand.groupingFree_ungroup hsingle.1, Operand.groupingFree_ungroup hsingle.2⟩
  | .grouping _, hsingle, expression, hmem =>
      Statement.groupingFree_ungroupEach hsingle expression hmem

theorem Statement.groupingFree_ungroupEach : ∀ {body : List Statement},
    Statement.AllSingleValued body →
    ∀ expression ∈ Statement.ungroupEach body, expression.GroupingFree
  | [], _, _, hmem => absurd hmem List.not_mem_nil
  | _ :: _, hsingle, expression, hmem => by
      rcases List.mem_append.1 hmem with hfirst | hothers
      · exact Statement.groupingFree_ungroup hsingle.1 expression hfirst
      · exact Statement.groupingFree_ungroupEach hsingle.2 expression hothers

end

mutual

theorem Operand.postorder_ungroup : ∀ operand : Operand,
    operand.ungroup.postorder = operand.postorder
  | .number _ => rfl
  | .nested statement => by
      have hcode := Statement.postorderEach_ungroup statement
      rw [Operand.ungroup]
      split
      · rename_i expression hexpression
        rw [hexpression, Statement.postorderEach, Statement.postorderEach, List.append_nil] at hcode
        exact hcode
      · exact hcode

/-- Groupings leave no trace in the code, so that nothing changes without them. -/
theorem Statement.postorderEach_ungroup : ∀ statement : Statement,
    Statement.postorderEach statement.ungroup = statement.postorder
  | .expression operator left right => by
      rw [Statement.ungroup, Statement.postorderEach, Statement.postorderEach, List.append_nil,
        Statement.postorder, Operand.postorder_ungroup left, Operand.postorder_ungroup right,
        Statement.postorder]
  | .grouping body => Statement.postorderEach_ungroupEach body

theorem Statement.postorderEach_ungroupEach : ∀ body : List Statement,
    Statement.postorderEach (Statement.ungroupEach body) = Statement.postorderEach body
  | [] => rfl
  | statement :: statements => by
      rw [Statement.ungroupEach, Statement.postorderEach_append,
        Statement.postorderEach_ungroup statement, Statement.postorderEach_ungroupEach statements,
        Statement.postorderEach]

end

theorem Program.lower_ungroup (program : Program) : program.ungroup.lower = program.lower := by
  rw [lower_eq_postorder, lower_eq_postorder]
  exact Statement.postorderEach_ungroupEach program.body

/-! ### Reading code back -/

/-- Runs code over a stack of trees, topmost first; `none` if an operator finds fewer than
two. -/
def Code.readBack : Code → List Operand → Option (List Operand)
  | [], stack => some stack
  | .number literal :: code, stack => readBack code (.number literal :: stack)
  | .operator operator :: code, right :: left :: below =>
      readBack code (.nested (.expression operator left right) :: below)
  | .operator _ :: _, _ => none

mutual

theorem Operand.readBack_postorder : ∀ {operand : Operand}, operand.GroupingFree →
    ∀ (code : Code) (stack : List Operand),
      Code.readBack (operand.postorder ++ code) stack = Code.readBack code (operand :: stack)
  | .number _, _, _, _ => rfl
  | .nested _, hfree, code, stack => Statement.readBack_postorder hfree code stack

/-- The code of a tree without groupings pushes this tree, whatever follows and whatever
has been read before. -/
theorem Statement.readBack_postorder : ∀ {statement : Statement}, statement.GroupingFree →
    ∀ (code : Code) (stack : List Operand),
      Code.readBack (statement.postorder ++ code) stack =
        Code.readBack code (.nested statement :: stack)
  | .expression operator left right, hfree, code, stack => by
      calc
        Code.readBack ((Statement.expression operator left right).postorder ++ code) stack =
            Code.readBack (left.postorder ++ (right.postorder ++ .operator operator :: code))
              stack := by
          rw [Statement.postorder, List.append_assoc, List.append_assoc, List.singleton_append]
        _ = Code.readBack (.operator operator :: code) (right :: left :: stack) := by
          rw [Operand.readBack_postorder hfree.1, Operand.readBack_postorder hfree.2]
        _ = Code.readBack code (.nested (.expression operator left right) :: stack) := rfl

end

theorem Statement.readBack_postorderEach {body : List Statement}
    (hfree : ∀ statement ∈ body, statement.GroupingFree) (stack : List Operand) :
    Code.readBack (Statement.postorderEach body) stack =
      some ((body.map Operand.nested).reverse ++ stack) := by
  induction body generalizing stack with
  | nil => rfl
  | cons statement statements ih =>
      have hothers : ∀ other ∈ statements, other.GroupingFree :=
        fun other hmem => hfree other (List.mem_cons_of_mem _ hmem)
      rw [Statement.postorderEach,
        Statement.readBack_postorder (hfree statement List.mem_cons_self), ih hothers,
        List.map_cons, List.reverse_cons, List.append_assoc, List.singleton_append]

namespace Program

variable {first second : Program}

/-- A program without groupings is known from its code. -/
theorem eq_of_lower_eq (hfirst : first.GroupingFree) (hsecond : second.GroupingFree)
    (hcode : first.lower = second.lower) : first = second := by
  rw [lower_eq_postorder, lower_eq_postorder] at hcode
  have hread := congrArg (Code.readBack · []) hcode
  simp only [postorder, Statement.readBack_postorderEach hfirst,
    Statement.readBack_postorderEach hsecond, List.append_nil] at hread
  have htrees := List.reverse_inj.1 (Option.some.inj hread)
  have hbody : first.body = second.body :=
    (List.map_inj_right fun _ _ => Operand.nested.inj).1 htrees
  cases first
  cases second
  exact congrArg mk hbody

end Program

/-- Lowering forgets nothing but parentheses.  Programs whose operands are single-valued
come to programs without any groupings, and have the same code just if they come to the
same one. -/
theorem lower_eq_iff_ungroup_eq (first second : Program) (hfirst : first.SingleValued)
    (hsecond : second.SingleValued) :
    first.ungroup.GroupingFree ∧ second.ungroup.GroupingFree ∧
      (first.lower = second.lower ↔ first.ungroup = second.ungroup) := by
  have hfirstFree : first.ungroup.GroupingFree := Statement.groupingFree_ungroupEach hfirst
  have hsecondFree : second.ungroup.GroupingFree := Statement.groupingFree_ungroupEach hsecond
  refine ⟨hfirstFree, hsecondFree, ?_, ?_⟩
  · intro hcode
    apply Program.eq_of_lower_eq hfirstFree hsecondFree
    rw [first.lower_ungroup, second.lower_ungroup, hcode]
  · intro hungrouped
    rw [← first.lower_ungroup, hungrouped, second.lower_ungroup]

/-- `((1+2))*3 (4-5)` and `(1+2)*3 4-5` have the same code; `1+(2*3) 4-5` has another. -/
theorem lower_eq_iff_ungroup_eq_of_doubled_parentheses :
    let sum : Statement := .expression .add (.number "1") (.number "2")
    let difference : Statement := .expression .subtract (.number "4") (.number "5")
    let first : Program :=
      ⟨[.expression .multiply (.nested (.grouping [.grouping [sum]])) (.number "3"),
        .grouping [difference]]⟩
    let second : Program :=
      ⟨[.expression .multiply (.nested (.grouping [sum])) (.number "3"), difference]⟩
    let third : Program :=
      ⟨[.expression .add (.number "1")
        (.nested (.grouping [.expression .multiply (.number "2") (.number "3")])), difference]⟩
    first.SingleValued ∧ second.SingleValued ∧ third.SingleValued ∧
      first.lower = second.lower ∧ first.ungroup ≠ third.ungroup := by
  intro sum difference first second third
  have hsecond := lower_eq_iff_ungroup_eq first second (by decide) (by decide)
  have hthird := lower_eq_iff_ungroup_eq first third (by decide) (by decide)
  refine ⟨by decide, by decide, by decide, hsecond.2.2.2 rfl, ?_⟩
  intro hungrouped
  have hcode := hthird.2.2.2 hungrouped
  rw [first.lower_eq_postorder, third.lower_eq_postorder] at hcode
  revert hcode
  decide

end Calculator
