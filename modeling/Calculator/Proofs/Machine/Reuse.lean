import Calculator.Proofs.Machine.Frame

/-!
# Machines that are used again

A run starts from an empty stack, so nothing that the machine did before can show in
its result.  Where a tape starts can show in the indices of faults only: the run is the
one of the pending instructions on their own, moved by the index of the first of them.
How a run ends says what is left behind.  A run that succeeds, or stops at an operator
short of values, leaves an empty stack; one that stops at a literal that is no number
leaves the values of the instructions before it.  In each case the next run is safe.
-/

namespace Calculator

namespace Fault

/-- The fault of the same instruction in code that stands behind so much other code. -/
def shift (offset : Nat) : Fault → Fault
  | stackUnderflow index operator => stackUnderflow (offset + index) operator
  | invalidNumber index literal => invalidNumber (offset + index) literal
  | unbalancedStack remaining => unbalancedStack remaining

end Fault

theorem Instruction.fault?_shift (offset index : Nat) (available : Int)
    (instruction : Instruction) :
    instruction.fault? (offset + index) available =
      (instruction.fault? index available).map (Fault.shift offset) := by
  cases instruction with
  | number literal =>
      rw [fault?, fault?]
      split <;> rfl
  | operator operator =>
      rw [fault?, fault?]
      split <;> rfl

namespace Run

variable {code : Code} {next : Nat} {stack values : List Float} {fault : Fault}

/-- The same run of code that stands behind so much other code. -/
def shift (offset : Nat) (run : Run) : Run :=
  ⟨run.result.mapError (Fault.shift offset), run.stack, offset + run.next⟩

/-- Where code stands shows in the indices of a run only. -/
theorem execute_shift (code : Code) (offset next : Nat) (stack : List Float) :
    execute code (offset + next) stack = (execute code next stack).shift offset := by
  induction code generalizing next stack with
  | nil => rfl
  | cons instruction code ih =>
      cases hfault : instruction.fault? next stack.length with
      | none =>
          obtain ⟨after, hstep, -⟩ := exists_steps_of_fault? hfault
          rw [hstep.execute_cons, hstep.execute_cons, Nat.add_assoc]
          exact ih (next + 1) after
      | some fault =>
          have hshifted : instruction.fault? (offset + next) stack.length =
              some (fault.shift offset) := by
            rw [Instruction.fault?_shift, hfault, Option.map_some]
          rw [execute_of_fault? hfault, execute_of_fault? hshifted]
          rfl

/-- A run that succeeds comes to the end of the code and leaves an empty stack. -/
theorem execute_of_ok (hrun : (execute code next stack).result = .ok values) :
    execute code next stack = ⟨.ok values, [], next + code.length⟩ := by
  have hend := execute_append_of_ok hrun []
  rwa [List.append_nil, execute, List.reverse_reverse] at hend

/-- A run that fails does so at an instruction that it has reached and that has the
fault with the stack found there. -/
theorem exists_stop_of_error (hrun : (execute code 0 []).result = .error fault) :
    ∃ index instruction left, code[index]? = some instruction ∧ Reaches code index left ∧
      instruction.fault? index left.length = some fault := by
  obtain ⟨index, hfault, hnone⟩ := result_eq_error_iff.1 hrun
  obtain ⟨instruction, hinstruction, hfault⟩ := Option.bind_eq_some_iff.1 hfault
  obtain ⟨hindex, -⟩ := List.getElem?_eq_some_iff.1 hinstruction
  obtain ⟨left, hreaches, hlength⟩ := exists_reaches (Nat.le_of_lt hindex) hnone
  exact ⟨index, instruction, left, hinstruction, hreaches, hlength ▸ hfault⟩

/-- Code that comes behind the instruction at which a run stops makes no difference. -/
theorem execute_append_of_stop {index : Nat} {instruction : Instruction} {left : List Float}
    (hinstruction : code[index]? = some instruction) (hreaches : Reaches code index left)
    (hfault : instruction.fault? index left.length = some fault) (second : Code) :
    execute (code ++ second) 0 [] =
      ⟨.error fault, if instruction.isOperator then [] else left, index + 1⟩ := by
  obtain ⟨hindex, rfl⟩ := List.getElem?_eq_some_iff.1 hinstruction
  have hcode : code ++ second =
      code.take index ++ code[index] :: (code.drop (index + 1) ++ second) := by
    rw [← List.cons_append, ← List.drop_eq_getElem_cons hindex, ← List.append_assoc,
      List.take_append_drop]
  rw [hcode, hreaches.2, execute_of_fault? hfault]

theorem Reaches.result_take {index : Nat} (hreaches : Reaches code index stack) :
    (execute (code.take index) 0 []).result = .ok stack.reverse := by
  rw [← List.append_nil (code.take index), hreaches.2, execute]

end Run

namespace Machine

/-! ### The state that a run leaves behind -/

/-- What a run of code from some index on leaves behind, for each way in which it can end. -/
def Settled (code : Code) (start : Nat) (after : Machine) (tape : Tape) :
    Except Fault (List Float) → Prop
  | .ok _ => after.stack = [] ∧ tape.next = max start code.length
  | .error (.stackUnderflow index operator) =>
      start ≤ index ∧ code[index]? = some (.operator operator) ∧ after.stack = [] ∧
        tape.next = index + 1 ∧ tape.current = index
  | .error (.invalidNumber index literal) =>
      start ≤ index ∧ code[index]? = some (.number literal) ∧
        (({} : Machine).run ((code.drop start).take (index - start))).1 =
          .ok after.stack.reverse ∧
        tape.next = index + 1 ∧ tape.current = index
  | .error (.unbalancedStack _) => False

variable (machine : Machine) (code : Code) (start : Nat)

/-- Whatever the machine held, a tape is run as its pending instructions are run on their
own, but for the indices. -/
theorem execute_eq_shift :
    machine.execute ⟨code, start⟩ =
      (((Run.execute (code.drop start) 0 []).shift start).result,
        ⟨((Run.execute (code.drop start) 0 []).shift start).stack⟩,
        ⟨code, ((Run.execute (code.drop start) 0 []).shift start).next⟩) := by
  rw [execute_eq, ← Run.execute_shift, Nat.add_zero]
  rfl

/-- A run ends in the state that its result tells. -/
theorem settled_execute :
    Settled code start (machine.execute ⟨code, start⟩).2.1 (machine.execute ⟨code, start⟩).2.2
      (machine.execute ⟨code, start⟩).1 := by
  rw [execute_eq_shift]
  cases hresult : (Run.execute (code.drop start) 0 []).result with
  | ok values =>
      rw [Run.execute_of_ok hresult]
      refine ⟨rfl, ?_⟩
      simp only [Run.shift, List.length_drop]
      omega
  | error fault =>
      obtain ⟨index, instruction, left, hinstruction, hreaches, hfault⟩ :=
        Run.exists_stop_of_error hresult
      have hrun := Run.execute_append_of_stop hinstruction hreaches hfault []
      rw [List.append_nil] at hrun
      rw [hrun]
      -- The index counts from the start of the run; in the code it lies behind what was skipped.
      rw [List.getElem?_drop] at hinstruction
      cases instruction with
      | number literal =>
          obtain rfl := Instruction.eq_of_fault?_number hfault
          refine ⟨Nat.le_add_right _ _, hinstruction, ?_, rfl, rfl⟩
          rw [run_fst, Nat.add_sub_cancel_left]
          exact hreaches.result_take
      | operator operator =>
          obtain rfl := Instruction.eq_of_fault?_operator hfault
          exact ⟨Nat.le_add_right _ _, hinstruction, rfl, rfl, rfl⟩

/-! ### One call after the other -/

/-- What a machine can be asked for: all values of some code, or its only value. -/
inductive Call where
  | run (code : Code)
  | evaluate (code : Code)

inductive Answer where
  | values (result : Except Fault (List Float))
  | value (result : Except Fault Float)

def answer (machine : Machine) : Call → Answer × Machine
  | .run code => (.values (machine.run code).1, (machine.run code).2)
  | .evaluate code => (.value (machine.evaluate code).1, (machine.evaluate code).2)

/-- The answers of one machine to calls made in turn. -/
def answers : Machine → List Call → List Answer
  | _, [] => []
  | machine, call :: calls => (machine.answer call).1 :: (machine.answer call).2.answers calls

/-- What a machine answers does not depend on what it holds. -/
theorem answer_fst (other : Machine) (call : Call) :
    (machine.answer call).1 = (other.answer call).1 := by
  cases call with
  | run code => rw [answer, answer, run_eq_run machine other]
  | evaluate code => rw [answer, answer, evaluate, evaluate, run_eq_run machine other]

theorem answers_eq_map (calls : List Call) :
    machine.answers calls = calls.map fun call => (({} : Machine).answer call).1 := by
  induction calls generalizing machine with
  | nil => rfl
  | cons call calls ih => rw [answers, ih, List.map_cons, answer_fst machine {}]

/-- A run does not depend on what the machine did before, and ends in a known state.  Its
result is that of the pending instructions on a new machine, with the indices of faults
counted from the start of the code; what it leaves on the stack and where the tape stands
follows from the result.  So of any calls made in turn, each is answered as by a new
machine. -/
theorem execute_anew (result : Except Fault (List Float)) (after : Machine) (tape : Tape)
    (hrun : machine.execute ⟨code, start⟩ = (result, after, tape)) :
    result = (({} : Machine).run (code.drop start)).1.mapError (Fault.shift start) ∧
      (code.length ≤ start → result = .ok []) ∧
      tape.code = code ∧ Settled code start after tape result ∧
      ∀ (used : Machine) (calls : List Call),
        used.answers calls = calls.map fun call => (({} : Machine).answer call).1 := by
  have hsettled := settled_execute machine code start
  rw [hrun] at hsettled
  rw [execute_eq_shift] at hrun
  obtain ⟨rfl, hrest⟩ := Prod.mk.inj hrun
  obtain ⟨rfl, rfl⟩ := Prod.mk.inj hrest
  refine ⟨?_, ?_, rfl, hsettled, answers_eq_map⟩
  · rw [run_fst]
    rfl
  · intro hpast
    rw [List.drop_eq_nil_of_le hpast]
    rfl

/-- From its second instruction on the code stops at `x`, with the value of `2` on the
stack and nothing of what the machine held before. -/
theorem execute_anew_at_second_instruction :
    let code : Code := [.operator .add, .number "2", .number "x"]
    ∃ left : Float,
      (⟨[7]⟩ : Machine).execute ⟨code, 1⟩ =
        (.error (.invalidNumber 2 "x"), ⟨[left]⟩, ⟨code, 3⟩) ∧
      (({} : Machine).run [.number "2", .number "x"]).1.mapError (Fault.shift 1) =
        .error (.invalidNumber 2 "x") ∧
      (({} : Machine).run [.number "2"]).1 = .ok [left] ∧
      (⟨[left]⟩ : Machine).answers [.run [.number "2"], .evaluate [.operator .add]] =
        [(({} : Machine).answer (.run [.number "2"])).1,
          (({} : Machine).answer (.evaluate [.operator .add])).1] := by
  intro code
  obtain ⟨left, hleft⟩ : ∃ left, Number.read? "2" = some left :=
    Option.isSome_iff_exists.1 (by decide +kernel)
  have hunread : Number.read? "x" = none := by decide +kernel
  have hrun : (⟨[7]⟩ : Machine).execute ⟨code, 1⟩ =
      (.error (.invalidNumber 2 "x"), ⟨[left]⟩, ⟨code, 3⟩) := by
    simp [code, execute_eq, Tape.pending, Run.execute, hleft, hunread]
  obtain ⟨hresult, -, -, hsettled, hanswers⟩ := execute_anew _ _ _ _ _ _ hrun
  exact ⟨left, hrun, hresult.symm, hsettled.2.2.1, hanswers _ _⟩

end Machine

end Calculator
