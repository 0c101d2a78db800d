import Calculator.Tree.Walk

/-!
# Walking by recursion

The walk keeps its pending steps in a list.  The same journey can be told by
recursion over the tree: enter a node, visit its children in order with the node
as their parent, and leave it.  Entering a node in front of whatever is pending
comes to visiting it and then going on with what was pending.
-/

namespace Calculator

variable {State : Type}

/-- What happens inside a node, between the hooks of the node itself. -/
def Visitor.around (visitor : Visitor State) (node : Node) (parent : Option Node)
    (inside : State → State) (state : State) : State :=
  Hook.call (visitor.hooks node.kind).exit
    (inside (Hook.call (visitor.hooks node.kind).enter state node parent)) node parent

mutual

def Operand.visit (visitor : Visitor State) (parent : Option Node) : Operand → State → State
  | .number literal, state => visitor.around (.number literal) parent id state
  | .nested statement, state => statement.visit visitor parent state

def Statement.visit (visitor : Visitor State) (parent : Option Node) :
    Statement → State → State
  | .expression operator left right, state =>
      let node := Node.statement (.expression operator left right)
      visitor.around node parent
        (fun state => right.visit visitor (some node) (left.visit visitor (some node) state)) state
  | .grouping body, state =>
      let node := Node.statement (.grouping body)
      visitor.around node parent (fun state => Statement.visitEach visitor (some node) body state)
        state

def Statement.visitEach (visitor : Visitor State) (parent : Option Node) :
    List Statement → State → State
  | [], state => state
  | statement :: statements, state =>
      Statement.visitEach visitor parent statements (statement.visit visitor parent state)

end

/-- Depth-first traversal of a node and everything below it. -/
def Node.visit (visitor : Visitor State) (parent : Option Node) : Node → State → State
  | .program root, state =>
      visitor.around (.program root) parent
        (fun state => Statement.visitEach visitor (some (.program root)) root.body state) state
  | .statement inner, state => inner.visit visitor parent state
  | .number literal, state => visitor.around (.number literal) parent id state
  | .operator symbol, state => visitor.around (.operator symbol) parent id state

namespace Walk

variable {visitor : Visitor State} {pending : List Step} {state : State}

/-- Entering a node is visiting it, if entering its children one after the other
is some way of getting through its inside. -/
theorem run_enter_of_children {node : Node} {parent : Option Node} {inside : State → State}
    (hinside : ∀ pending state, run visitor (enterChildren node ++ pending) state =
      run visitor pending (inside state)) :
    run visitor (.enter node parent :: pending) state =
      run visitor pending (visitor.around node parent inside state) := by
  rw [run, hinside, run]
  rfl

mutual

theorem run_enter_operand (parent : Option Node) :
    ∀ (operand : Operand) (pending : List Step) (state : State),
      run visitor (.enter (Node.ofOperand operand) parent :: pending) state =
        run visitor pending (operand.visit visitor parent state)
  | .number literal, pending, state => by
      rw [Operand.visit]
      exact run_enter_of_children fun _ _ => rfl
  | .nested statement, pending, state => by
      rw [Operand.visit]
      exact run_enter_statement parent statement pending state

theorem run_enter_statement (parent : Option Node) :
    ∀ (statement : Statement) (pending : List Step) (state : State),
      run visitor (.enter (.statement statement) parent :: pending) state =
        run visitor pending (statement.visit visitor parent state)
  | .expression operator left right, pending, state => by
      rw [Statement.visit]
      apply run_enter_of_children
      intro pending state
      simp only [enterChildren, Node.children, List.map_cons, List.map_nil, List.cons_append,
        List.nil_append]
      rw [run_enter_operand _ left, run_enter_operand _ right]
  | .grouping body, pending, state => by
      rw [Statement.visit]
      apply run_enter_of_children
      intro pending state
      rw [enterChildren, Node.children]
      exact run_enterEach _ body pending state

theorem run_enterEach (parent : Option Node) :
    ∀ (body : List Statement) (pending : List Step) (state : State),
      run visitor ((body.map Node.statement).map (Step.enter · parent) ++ pending) state =
        run visitor pending (Statement.visitEach visitor parent body state)
  | [], pending, state => rfl
  | statement :: statements, pending, state => by
      rw [Statement.visitEach, List.map_cons, List.map_cons, List.cons_append,
        run_enter_statement parent statement, run_enterEach parent statements]

end

/-- Entering a node of any kind is visiting it. -/
theorem run_enter (node : Node) (parent : Option Node) :
    run visitor (.enter node parent :: pending) state =
      run visitor pending (node.visit visitor parent state) := by
  cases node with
  | program root =>
      exact run_enter_of_children (run_enterEach _ root.body)
  | statement inner => exact run_enter_statement parent inner pending state
  | number literal => exact run_enter_of_children fun _ _ => rfl
  | operator symbol => exact run_enter_of_children fun _ _ => rfl

end Walk

end Calculator
