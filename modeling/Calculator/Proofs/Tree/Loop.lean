import Calculator.Proofs.Tree.Traversal
import Mathlib.Logic.Function.Iterate

/-!
# The walk as a loop

A walk is a loop over a stack of steps: each turn takes the topmost step, and a step
that enters a node puts further steps in its place.  What a stack stands for is that
each of its steps is brought to its end, a node that is yet to be entered being
visited with everything below it.  A turn does not change what the stack and the
state come to, and it makes the steps still to be taken fewer by exactly one.  So the
loop stops after a number of turns that only the size of the tree decides, and stops
in the state that the recursive traversal gives.
-/

namespace Calculator

variable {State : Type}

/-! ### Traversal by children -/

theorem Node.visit_ofOperand (visitor : Visitor State) (parent : Option Node)
    (operand : Operand) (state : State) :
    (ofOperand operand).visit visitor parent state = operand.visit visitor parent state := by
  cases operand with
  | number literal => rw [Operand.visit, ofOperand, visit]
  | nested statement => rw [Operand.visit, ofOperand, visit]

theorem Statement.visitEach_eq_foldl (visitor : Visitor State) (parent : Option Node)
    (body : List Statement) (state : State) :
    Statement.visitEach visitor parent body state =
      (body.map Node.statement).foldl (fun state child => child.visit visitor parent state)
        state := by
  induction body generalizing state with
  | nil => rfl
  | cons statement statements ih =>
      rw [visitEach, ih, List.map_cons, List.foldl_cons, Node.visit]

/-- A node is entered, its children are visited in order with the node as their
parent, and it is left. -/
theorem Node.visit_eq_around_children (visitor : Visitor State) (parent : Option Node)
    (node : Node) (state : State) :
    node.visit visitor parent state =
      visitor.around node parent
        (fun state =>
          node.children.foldl (fun state child => child.visit visitor (some node) state) state)
        state := by
  match node with
  | program root =>
      rw [visit]
      congr 1
      funext state
      exact Statement.visitEach_eq_foldl visitor _ root.body state
  | statement (.expression _ left right) =>
      rw [visit, Statement.visit]
      congr 1
      funext state
      rw [← visit_ofOperand, ← visit_ofOperand]
      rfl
  | statement (.grouping body) =>
      rw [visit, Statement.visit]
      congr 1
      funext state
      exact Statement.visitEach_eq_foldl visitor _ body state
  | number literal => rfl
  | operator symbol => rfl

namespace Walk

/-! ### Turns -/

/-- One turn of the loop.  The topmost step is taken off the stack.  If it enters a
node, the exit of the node is put on the stack and then its children are, the last one
first. -/
def turn (visitor : Visitor State) : List Step × State → List Step × State
  | ([], state) => ([], state)
  | (.enter node parent :: stack, state) =>
      (node.children.reverse.foldl (fun stack child => .enter child (some node) :: stack)
          (.exit node parent :: stack),
        Hook.call (visitor.hooks node.kind).enter state node parent)
  | (.exit node parent :: stack, state) =>
      (stack, Hook.call (visitor.hooks node.kind).exit state node parent)

/-- Put on the stack from the last to the first, the children lie on it in order. -/
theorem foldl_reverse_children (node : Node) (stack : List Step) :
    node.children.reverse.foldl (fun stack child => .enter child (some node) :: stack) stack =
      enterChildren node ++ stack := by
  rw [List.foldl_reverse, enterChildren]
  induction node.children with
  | nil => rfl
  | cons child children ih => rw [List.foldr_cons, ih, List.map_cons, List.cons_append]

@[simp]
theorem turn_enter (visitor : Visitor State) (node : Node) (parent : Option Node)
    (stack : List Step) (state : State) :
    turn visitor (.enter node parent :: stack, state) =
      (enterChildren node ++ .exit node parent :: stack,
        Hook.call (visitor.hooks node.kind).enter state node parent) := by
  rw [turn, foldl_reverse_children]

@[simp]
theorem turn_exit (visitor : Visitor State) (node : Node) (parent : Option Node)
    (stack : List Step) (state : State) :
    turn visitor (.exit node parent :: stack, state) =
      (stack, Hook.call (visitor.hooks node.kind).exit state node parent) := rfl

/-! ### What a stack stands for -/

/-- A step brought to its end. -/
def Step.complete (visitor : Visitor State) : Step → State → State
  | enter node parent, state => node.visit visitor parent state
  | exit node parent, state => Hook.call (visitor.hooks node.kind).exit state node parent

/-- The state in which the steps of a stack end, one brought to its end after the
other. -/
def outcome (visitor : Visitor State) : List Step × State → State
  | (stack, state) => stack.foldl (fun state step => step.complete visitor state) state

theorem outcome_append (visitor : Visitor State) (first second : List Step) (state : State) :
    outcome visitor (first ++ second, state) =
      outcome visitor (second, outcome visitor (first, state)) :=
  List.foldl_append

theorem outcome_enterChildren (visitor : Visitor State) (node : Node) (state : State) :
    outcome visitor (enterChildren node, state) =
      node.children.foldl (fun state child => child.visit visitor (some node) state) state := by
  rw [outcome, enterChildren, List.foldl_map]
  rfl

/-- A turn does not change what the stack and the state come to. -/
theorem outcome_turn (visitor : Visitor State) (position : List Step × State) :
    outcome visitor (turn visitor position) = outcome visitor position := by
  match position with
  | ([], state) => rfl
  | (.exit node parent :: stack, state) => rfl
  | (.enter node parent :: stack, state) =>
      calc outcome visitor (turn visitor (.enter node parent :: stack, state))
          = outcome visitor (stack, visitor.around node parent
              (fun state => node.children.foldl
                (fun state child => child.visit visitor (some node) state) state) state) := by
            rw [turn_enter, outcome_append, outcome_enterChildren]
            rfl
        _ = outcome visitor (.enter node parent :: stack, state) := by
            rw [← Node.visit_eq_around_children]
            rfl

/-- What a stack stands for is what running it gives. -/
theorem run_eq_outcome (visitor : Visitor State) (stack : List Step) (state : State) :
    run visitor stack state = outcome visitor (stack, state) := by
  induction stack generalizing state with
  | nil =>
      rw [run]
      rfl
  | cons step stack ih =>
      cases step with
      | enter node parent =>
          rw [run_enter, ih]
          rfl
      | exit node parent =>
          rw [run, ih]
          rfl

/-! ### How many turns there are -/

/-- As long as there are steps, a turn leaves one step fewer to be taken. -/
theorem totalWeight_turn (visitor : Visitor State) (position : List Step × State) :
    totalWeight (turn visitor position).1 = totalWeight position.1 - 1 := by
  match position with
  | ([], state) => rfl
  | (.exit node parent :: stack, state) =>
      rw [turn_exit, totalWeight, Step.weight, Nat.add_sub_cancel_left]
  | (.enter node parent :: stack, state) =>
      -- Beside its children a node counts for two steps, of which the exit is still to come.
      have hchildren : totalWeight (enterChildren node) + 2 = 2 * node.size := by
        rw [enterChildren, totalWeight_enter, Node.size_eq node, Nat.mul_add]
      rw [turn_enter, totalWeight_append, totalWeight, totalWeight, Step.weight, Step.weight]
      omega

theorem totalWeight_pos_iff {stack : List Step} : 0 < totalWeight stack ↔ stack ≠ [] := by
  cases stack with
  | nil => simp [totalWeight]
  | cons step stack =>
      have hstep : 0 < step.weight := by
        cases step with
        | enter node parent =>
            rw [Step.weight, Node.size_eq]
            omega
        | exit node parent => exact Nat.one_pos
      simp only [totalWeight, ne_eq, reduceCtorEq, not_false_eq_true, iff_true]
      omega

/-- After any number of turns, the steps still to be taken are fewer by that number
and come to the same state. -/
theorem iterate_turn (visitor : Visitor State) (position : List Step × State) (turns : Nat) :
    totalWeight ((turn visitor)^[turns] position).1 = totalWeight position.1 - turns ∧
      outcome visitor ((turn visitor)^[turns] position) = outcome visitor position := by
  induction turns with
  | zero => exact ⟨rfl, rfl⟩
  | succ turns ih =>
      rw [Function.iterate_succ_apply']
      constructor
      · rw [totalWeight_turn, ih.1, Nat.sub_sub]
      · rw [outcome_turn, ih.2]

/-- Once all steps have been taken the stack is empty and the state is the one that
the stack stood for. -/
theorem iterate_turn_totalWeight (visitor : Visitor State) (stack : List Step)
    (state : State) :
    (turn visitor)^[totalWeight stack] (stack, state) =
      ([], outcome visitor (stack, state)) := by
  have hturns := iterate_turn visitor (stack, state) (totalWeight stack)
  generalize (turn visitor)^[totalWeight stack] (stack, state) = final at hturns ⊢
  obtain ⟨rest, reached⟩ := final
  have hempty : rest = [] := by
    by_contra hrest
    have hpositive := totalWeight_pos_iff.2 hrest
    rw [hturns.1, Nat.sub_self] at hpositive
    exact Nat.lt_irrefl 0 hpositive
  rw [← hturns.2, hempty]
  rfl

end Walk

/-- A walk with any hooks ends in the state of the recursive traversal: a node is
entered, its children are visited in order with the node as their parent, and the node
is left; the root has no parent.  As a loop over a stack of steps it enters and leaves
each node once, and not before the last of these turns is the stack empty. -/
theorem walk_eq_visit (visitor : Visitor State) (root : Node) (state : State) :
    walk visitor root state = root.visit visitor none state ∧
      (∀ node parent state, node.visit visitor parent state =
        Hook.call (visitor.hooks node.kind).exit
          (node.children.foldl (fun state child => child.visit visitor (some node) state)
            (Hook.call (visitor.hooks node.kind).enter state node parent)) node parent) ∧
      (Walk.turn visitor)^[2 * root.size] ([.enter root none], state) =
        ([], root.visit visitor none state) ∧
      ∀ turns < 2 * root.size,
        ((Walk.turn visitor)^[turns] ([.enter root none], state)).1 ≠ [] := by
  refine ⟨?_, ?_, ?_, ?_⟩
  · rw [walk, Walk.run_eq_outcome]
    rfl
  · intro node parent state
    exact node.visit_eq_around_children visitor parent state
  · exact Walk.iterate_turn_totalWeight visitor [.enter root none] state
  · intro turns hfewer
    have hweight : Walk.totalWeight [.enter root none] = 2 * root.size := rfl
    apply Walk.totalWeight_pos_iff.1
    rw [(Walk.iterate_turn visitor ([.enter root none], state) turns).1, hweight]
    exact Nat.sub_pos_of_lt hfewer

/-- Over `1 + 2`, with the numbers noted on entering and the sum on leaving, the walk has
four nodes to enter and to leave. -/
theorem walk_eq_visit_of_sum :
    let note : Hook (List (NodeKind × Option NodeKind)) :=
      fun notes node parent => notes ++ [(node.kind, parent.map Node.kind)]
    let visitor := (Visitor.empty.onEnter .number note).onExit .expression note
    let root : Node := .program ⟨[.expression .add (.number "1") (.number "2")]⟩
    let notes : List (NodeKind × Option NodeKind) :=
      [(.number, some .expression), (.number, some .expression), (.expression, some .program)]
    walk visitor root [] = notes ∧
      (Walk.turn visitor)^[8] ([.enter root none], []) = ([], notes) ∧
      7 < 2 * root.size ∧ ((Walk.turn visitor)^[7] ([.enter root none], [])).1 ≠ [] := by
  intro note visitor root notes
  obtain ⟨hwalk, -, hturns, hfewer⟩ := walk_eq_visit visitor root []
  have hsize : 7 < 2 * root.size := by decide
  exact ⟨hwalk, hturns, hsize, hfewer 7 hsize⟩

end Calculator
