import Calculator.Proofs.Code.Postorder

/-!
# The contexts of lowering

Lowering keeps code in two places, the output and the contexts that are open, and moves
it from one to the other whenever a context closes.  Two things are said about this
here.  A walk over a node leaves everything as it was but for the innermost place, which
has the postorder of the node added to it.  And whatever calls its hooks receive, also
calls that no walk would make, lowering holds the code that the calls asked for: read
from the output inwards it is all there, once, in the order of the calls.
-/

namespace Calculator

/-! ### Walks -/

/-- The code of a node.  An operator on its own has none. -/
def Node.postorder : Node → Code
  | .program root => root.postorder
  | .statement inner => inner.postorder
  | .number literal => [.number literal]
  | .operator _ => []

namespace Lowering

theorem visit_node (parent : Option Node) (node : Node) (lowering : Lowering) :
    node.visit visitor parent lowering = lowering.append node.postorder := by
  cases node with
  | program root => exact visit_each _ root.body lowering
  | statement inner => exact visit_statement parent inner lowering
  | number literal => rfl
  | operator symbol => exact (append_nil lowering).symm

theorem walk_visitor (root : Node) (lowering : Lowering) :
    walk visitor root lowering = lowering.append root.postorder := by
  rw [walk, Walk.run_enter, visit_node, Walk.run]

@[simp]
theorem depth_append (lowering : Lowering) (code : Code) :
    (lowering.append code).depth = lowering.depth := by
  obtain ⟨output, contexts⟩ := lowering
  cases contexts with
  | nil => rfl
  | cons innermost outer => rfl

/-- A walk over any node adds the postorder of the node to the innermost open context,
or to the output if none is open, and changes nothing else.  So the code of a program
is its postorder, and no context stays open. -/
theorem walk_appends_postorder :
    (∀ root output,
      walk visitor root ⟨output, []⟩ = ⟨output ++ root.postorder, []⟩) ∧
    (∀ root output innermost outer,
      walk visitor root ⟨output, innermost :: outer⟩ =
        ⟨output, (innermost ++ root.postorder) :: outer⟩) ∧
    (∀ root lowering, (walk visitor root lowering).depth = lowering.depth) ∧
    ∀ program : Program, program.lower = program.postorder ∧
      (walk visitor (.program program) {}).depth = 0 := by
  refine ⟨?_, ?_, ?_, ?_⟩
  · intro root output
    exact walk_visitor root ⟨output, []⟩
  · intro root output innermost outer
    exact walk_visitor root ⟨output, innermost :: outer⟩
  · intro root lowering
    rw [walk_visitor, depth_append]
  · intro program
    constructor
    · exact program.lower_eq_postorder
    · rw [walk_visitor, depth_append]
      rfl

end Lowering

/-! ### Calls -/

/-- Which of the two hooks of a kind of node is called. -/
inductive Moment where
  | enter
  | exit
deriving DecidableEq, Repr

/-- A call to one of the hooks of a visitor.  The node that the hook is given need not
be of the kind that the hook is for. -/
structure HookCall where
  kind : NodeKind
  moment : Moment
  node : Node
  parent : Option Node

/-- The hook of a visitor for a kind of node, if there is one. -/
def Visitor.hook {State : Type} (visitor : Visitor State) (kind : NodeKind) :
    Moment → Option (Hook State)
  | .enter => (visitor.hooks kind).enter
  | .exit => (visitor.hooks kind).exit

namespace HookCall

def perform {State : Type} (visitor : Visitor State) (state : State) (call : HookCall) : State :=
  Hook.call (visitor.hook call.kind call.moment) state call.node call.parent

/-- The code that a call asks lowering to add: the literal of a number that is entered
as a number, and the operator of an expression that is left as an expression. -/
def asked : HookCall → Code
  | ⟨.number, .enter, .number literal, _⟩ => [.number literal]
  | ⟨.expression, .exit, .statement (.expression operator _ _), _⟩ => [.operator operator]
  | _ => []

/-- The number of open contexts after a call.  Closing has no effect if none is open. -/
def depthAfter (depth : Nat) : HookCall → Nat
  | ⟨.expression, .enter, _, _⟩ | ⟨.grouping, .enter, _, _⟩ => depth + 1
  | ⟨.expression, .exit, _, _⟩ | ⟨.grouping, .exit, _, _⟩ => depth - 1
  | _ => depth

end HookCall

namespace Lowering

/-- All the code there is, from the output over the outermost context to the innermost. -/
def collected (lowering : Lowering) : Code :=
  lowering.output ++ lowering.contexts.reverse.flatten

@[simp]
theorem collected_append (lowering : Lowering) (code : Code) :
    (lowering.append code).collected = lowering.collected ++ code := by
  obtain ⟨output, contexts⟩ := lowering
  cases contexts with
  | nil => simp [append, collected]
  | cons innermost outer => simp [append, collected]

@[simp]
theorem collected_openContext (lowering : Lowering) :
    lowering.openContext.collected = lowering.collected := by
  simp [openContext, collected]

/-- A context that closes is emptied into the place just outside it, so the code stays
in order. -/
@[simp]
theorem collected_closeContext (lowering : Lowering) :
    lowering.closeContext.collected = lowering.collected := by
  obtain ⟨output, contexts⟩ := lowering
  cases contexts with
  | nil => rfl
  | cons innermost outer =>
      calc (closeContext ⟨output, innermost :: outer⟩).collected
          = collected ⟨output, outer⟩ ++ innermost := collected_append ⟨output, outer⟩ innermost
        _ = collected ⟨output, innermost :: outer⟩ := by
            simp [collected]

@[simp]
theorem depth_openContext (lowering : Lowering) :
    lowering.openContext.depth = lowering.depth + 1 := rfl

@[simp]
theorem depth_closeContext (lowering : Lowering) :
    lowering.closeContext.depth = lowering.depth - 1 := by
  obtain ⟨output, contexts⟩ := lowering
  cases contexts with
  | nil => rfl
  | cons innermost outer => exact depth_append ⟨output, outer⟩ innermost

theorem appendNumber_eq (lowering : Lowering) (node : Node) (parent : Option Node) :
    lowering.appendNumber node =
      lowering.append (HookCall.asked ⟨.number, .enter, node, parent⟩) := by
  cases node with
  | number literal => rfl
  | program root => exact (append_nil lowering).symm
  | statement inner => exact (append_nil lowering).symm
  | operator symbol => exact (append_nil lowering).symm

theorem appendOperator_eq (lowering : Lowering) (node : Node) (parent : Option Node) :
    lowering.appendOperator node =
      lowering.append (HookCall.asked ⟨.expression, .exit, node, parent⟩) := by
  match node with
  | .statement (.expression operator left right) => rfl
  | .statement (.grouping body) => exact (append_nil lowering).symm
  | .number literal => exact (append_nil lowering).symm
  | .program root => exact (append_nil lowering).symm
  | .operator symbol => exact (append_nil lowering).symm

/-- A call either opens a context or adds what it asks for, which may be nothing, and
then closes a context if it is one that leaves an expression or a grouping. -/
theorem perform_visitor (lowering : Lowering) (call : HookCall) :
    call.perform visitor lowering =
      match call.kind, call.moment with
      | .expression, .enter | .grouping, .enter => lowering.openContext
      | .expression, .exit | .grouping, .exit => (lowering.append call.asked).closeContext
      | _, _ => lowering.append call.asked := by
  match call with
  | ⟨.expression, .enter, node, parent⟩ => rfl
  | ⟨.grouping, .enter, node, parent⟩ => rfl
  | ⟨.expression, .exit, node, parent⟩ =>
      exact congrArg closeContext (appendOperator_eq lowering node parent)
  | ⟨.grouping, .exit, node, parent⟩ => exact congrArg closeContext (append_nil lowering).symm
  | ⟨.number, .enter, node, parent⟩ => exact appendNumber_eq lowering node parent
  -- For the rest there is no hook.
  | ⟨.number, .exit, node, parent⟩ => exact (append_nil lowering).symm
  | ⟨.program, .enter, node, parent⟩ => exact (append_nil lowering).symm
  | ⟨.program, .exit, node, parent⟩ => exact (append_nil lowering).symm
  | ⟨.operator, .enter, node, parent⟩ => exact (append_nil lowering).symm
  | ⟨.operator, .exit, node, parent⟩ => exact (append_nil lowering).symm

theorem collected_perform (lowering : Lowering) (call : HookCall) :
    (call.perform visitor lowering).collected = lowering.collected ++ call.asked := by
  obtain ⟨kind, moment, node, parent⟩ := call
  rw [perform_visitor]
  cases kind <;> cases moment <;> simp <;> rfl

theorem depth_perform (lowering : Lowering) (call : HookCall) :
    (call.perform visitor lowering).depth = call.depthAfter lowering.depth := by
  obtain ⟨kind, moment, node, parent⟩ := call
  rw [perform_visitor]
  cases kind <;> cases moment <;> simp [HookCall.depthAfter]

/-- What calls ask for comes behind what has been collected before them. -/
theorem foldl_perform (calls : List HookCall) (lowering : Lowering) :
    (calls.foldl (HookCall.perform visitor) lowering).collected =
        lowering.collected ++ calls.flatMap HookCall.asked ∧
      (calls.foldl (HookCall.perform visitor) lowering).depth =
        calls.foldl HookCall.depthAfter lowering.depth := by
  induction calls generalizing lowering with
  | nil => exact ⟨(List.append_nil _).symm, rfl⟩
  | cons call calls ih =>
      obtain ⟨hcollected, hdepth⟩ := ih (call.perform visitor lowering)
      constructor
      · rw [List.foldl_cons, hcollected, collected_perform, List.flatMap_cons, List.append_assoc]
      · rw [List.foldl_cons, hdepth, depth_perform, List.foldl_cons]

/-- Whatever the calls, balanced or not, the output followed by the open contexts from
the outermost to the innermost is the code that the calls asked for, in their order; and
every opening call has made one more context and every closing one has taken one away,
as long as there was any. -/
theorem collected_of_calls (calls : List HookCall) :
    (calls.foldl (HookCall.perform visitor) {}).output ++
        (calls.foldl (HookCall.perform visitor) {}).contexts.reverse.flatten =
      calls.flatMap HookCall.asked ∧
    (calls.foldl (HookCall.perform visitor) {}).depth =
      calls.foldl HookCall.depthAfter 0 :=
  foldl_perform calls {}

end Lowering

end Calculator
