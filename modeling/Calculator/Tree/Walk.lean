import Calculator.Tree.Node

/-!
# Walking a tree

A visitor holds, for each kind of node, what to do on entering it and what to
do on leaving it, either of which may be missing.  The walk keeps the steps that
are still to be taken in a list, so its own depth does not grow with the tree.
-/

namespace Calculator

variable {State : Type}

/-- What to do at a node, given the state so far, the node and its parent. -/
abbrev Hook (State : Type) := State → Node → Option Node → State

structure Hooks (State : Type) where
  enter : Option (Hook State) := none
  exit : Option (Hook State) := none

structure Visitor (State : Type) where
  hooks : NodeKind → Hooks State

namespace Visitor

def empty : Visitor State :=
  ⟨fun _ => {}⟩

/-- Sets what to do on entering nodes of a kind, in place of what was set before. -/
def onEnter (visitor : Visitor State) (kind : NodeKind) (hook : Hook State) : Visitor State :=
  ⟨fun other =>
    if other = kind then { visitor.hooks other with enter := some hook } else visitor.hooks other⟩

def onExit (visitor : Visitor State) (kind : NodeKind) (hook : Hook State) : Visitor State :=
  ⟨fun other =>
    if other = kind then { visitor.hooks other with exit := some hook } else visitor.hooks other⟩

end Visitor

/-- A missing hook leaves the state as it is. -/
def Hook.call (hook : Option (Hook State)) (state : State) (node : Node)
    (parent : Option Node) : State :=
  match hook with
  | some hook => hook state node parent
  | none => state

namespace Walk

inductive Step where
  | enter (node : Node) (parent : Option Node)
  | exit (node : Node) (parent : Option Node)

/-- How many steps a step still leads to, itself included. -/
def Step.weight : Step → Nat
  | enter node _ => 2 * node.size
  | exit _ _ => 1

def totalWeight : List Step → Nat
  | [] => 0
  | step :: steps => step.weight + totalWeight steps

@[simp]
theorem totalWeight_append (first second : List Step) :
    totalWeight (first ++ second) = totalWeight first + totalWeight second := by
  induction first with
  | nil => rw [List.nil_append, totalWeight, Nat.zero_add]
  | cons step steps ih => rw [List.cons_append, totalWeight, totalWeight, ih, Nat.add_assoc]

def enterChildren (node : Node) : List Step :=
  node.children.map (Step.enter · (some node))

theorem totalWeight_enter (parent : Option Node) (nodes : List Node) :
    totalWeight (nodes.map (Step.enter · parent)) = 2 * Node.totalSize nodes := by
  induction nodes with
  | nil => rfl
  | cons node nodes ih =>
      rw [List.map_cons, totalWeight, ih, Step.weight, Node.totalSize, Nat.mul_add]

/-- Takes the pending steps in order.  Entering a node puts its children and
then its exit in front of what was pending. -/
def run (visitor : Visitor State) : List Step → State → State
  | [], state => state
  | .enter node parent :: pending, state =>
      run visitor (enterChildren node ++ .exit node parent :: pending)
        (Hook.call (visitor.hooks node.kind).enter state node parent)
  | .exit node parent :: pending, state =>
      run visitor pending (Hook.call (visitor.hooks node.kind).exit state node parent)
termination_by pending => totalWeight pending
decreasing_by
  · have hchildren : totalWeight (enterChildren node) + 2 = 2 * node.size := by
      rw [enterChildren, totalWeight_enter, Node.size_eq node]
      omega
    rw [totalWeight_append, totalWeight, totalWeight, Step.weight, Step.weight]
    omega
  · rw [totalWeight, Step.weight]
    omega

end Walk

/-- Walks a node and everything below it; the node itself has no parent. -/
def walk (visitor : Visitor State) (root : Node) (state : State) : State :=
  Walk.run visitor [.enter root none] state

end Calculator
