import Calculator.Machine.Fault
import Calculator.Machine.Tape
import Calculator.Number.Literal

/-!
# The stack machine

The machine runs postfix code over a stack of numbers, topmost first, fetching
one instruction after the other from a tape.  A run starts from an empty stack
whatever was left there before.  If it succeeds it hands out all values, in the
order in which they were pushed, and leaves the stack empty.  An operator that
finds too few values empties the stack as well; a literal that is no number
leaves it as it was.  What a run comes to is also said by recursion on the
pending instructions, and the two agree.
-/

namespace Calculator

structure Machine where
  stack : List Float := []
deriving Inhabited

/-- How a run ended: its result, what it left on the stack, topmost first, and
the index of the instruction that would have come next. -/
structure Run where
  result : Except Fault (List Float)
  stack : List Float
  next : Nat

namespace Run

/-- Runs code whose first instruction has the index `next`. -/
def execute : Code → (next : Nat) → (stack : List Float) → Run
  | [], next, stack => ⟨.ok stack.reverse, [], next⟩
  | .number literal :: code, next, stack =>
      match Number.read? literal with
      | some value => execute code (next + 1) (value :: stack)
      | none => ⟨.error (.invalidNumber next literal), stack, next + 1⟩
  | .operator operator :: code, next, stack =>
      match stack with
      | right :: left :: below =>
          execute code (next + 1) (operator.apply left right :: below)
      | _ => ⟨.error (.stackUnderflow next operator), [], next + 1⟩

end Run

namespace Machine

def clear (machine : Machine) : Machine :=
  { machine with stack := [] }

/-- Fetches one instruction after the other and runs it, until nothing is left to
fetch or an instruction cannot be run. -/
def drive (machine : Machine) (tape : Tape) : Except Fault (List Float) × Machine × Tape :=
  match _ : tape.fetch with
  | (none, after) => (.ok machine.stack.reverse, machine.clear, after)
  | (some (.number literal), after) =>
      match Number.read? literal with
      | some value => drive { machine with stack := value :: machine.stack } after
      | none => (.error (.invalidNumber after.current literal), machine, after)
  | (some (.operator operator), after) =>
      match machine.stack with
      | right :: left :: below =>
          drive { machine with stack := operator.apply left right :: below } after
      | _ => (.error (.stackUnderflow after.current operator), machine.clear, after)
termination_by tape.pending.length
decreasing_by all_goals simp [Tape.pending_of_fetch ‹_›]

/-- Runs the pending instructions of a tape. -/
def execute (machine : Machine) (tape : Tape) : Except Fault (List Float) × Machine × Tape :=
  machine.clear.drive tape

/-- What is fetched one by one is run as the pending instructions are as a list. -/
theorem drive_eq (machine : Machine) (tape : Tape) :
    machine.drive tape =
      ((Run.execute tape.pending tape.next machine.stack).result,
        ⟨(Run.execute tape.pending tape.next machine.stack).stack⟩,
        { tape with next := (Run.execute tape.pending tape.next machine.stack).next }) := by
  fun_induction drive machine tape with
  | case1 machine tape after hfetch =>
      obtain ⟨hpending, rfl⟩ := Tape.pending_of_fetch_none hfetch
      rw [hpending]
      rfl
  | case2 machine tape literal after hfetch value hvalue ih =>
      obtain rfl := Tape.eq_of_fetch hfetch
      rw [ih, Tape.pending_of_fetch hfetch, Run.execute, hvalue]
  | case3 machine tape literal after hfetch hvalue =>
      obtain rfl := Tape.eq_of_fetch hfetch
      rw [Tape.pending_of_fetch hfetch, Run.execute, hvalue]
      rfl
  | case4 machine tape operator after hfetch right left below hstack ih =>
      obtain rfl := Tape.eq_of_fetch hfetch
      rw [ih, Tape.pending_of_fetch hfetch, hstack]
      rfl
  | case5 machine tape operator after hfetch hstack =>
      obtain rfl := Tape.eq_of_fetch hfetch
      rw [Tape.pending_of_fetch hfetch, Run.execute]
      · rfl
      · exact hstack

/-- A run of a tape is a run of its pending instructions from the empty stack. -/
theorem execute_eq (machine : Machine) (tape : Tape) :
    machine.execute tape =
      ((Run.execute tape.pending tape.next []).result,
        ⟨(Run.execute tape.pending tape.next []).stack⟩,
        { tape with next := (Run.execute tape.pending tape.next []).next }) :=
  machine.clear.drive_eq tape

/-- All values that the code leaves. -/
def run (machine : Machine) (code : Code) : Except Fault (List Float) × Machine :=
  let (result, after, _) := machine.execute ⟨code, 0⟩
  (result, after)

/-- The value of code that leaves exactly one. -/
def evaluate (machine : Machine) (code : Code) : Except Fault Float × Machine :=
  let (result, after) := machine.run code
  match result with
  | .ok [value] => (.ok value, after)
  | .ok values => (.error (.unbalancedStack values.length), after)
  | .error fault => (.error fault, after)

end Machine

end Calculator
