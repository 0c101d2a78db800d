import Calculator.Proofs.Machine.Prediction

/-!
# Code behind code

A run that gets through its code from some stack gets through it above any other
values as well, since it never reaches below the values it was given.  Code that
follows other code therefore does what it does on its own, and leaves its values
behind those of the code before it.
-/

namespace Calculator

namespace Run

variable {code first : Code} {next : Nat} {stack values : List Float}

/-- An instruction that does not stop a run leads to some stack. -/
theorem exists_steps_of_ok {instruction : Instruction}
    (hrun : (execute (instruction :: code) next stack).result = .ok values) :
    ∃ after, Steps instruction stack after := by
  cases hfault : instruction.fault? next stack.length with
  | none =>
      obtain ⟨after, hstep, -⟩ := exists_steps_of_fault? hfault
      exact ⟨after, hstep⟩
  | some fault =>
      rw [execute_of_fault? hfault] at hrun
      cases hrun

/-- Code goes on behind other code with the values that this has left. -/
theorem execute_append_of_ok (hrun : (execute first next stack).result = .ok values)
    (second : Code) :
    execute (first ++ second) next stack =
      execute second (next + first.length) values.reverse := by
  induction first generalizing next stack with
  | nil =>
      obtain rfl : stack.reverse = values := Except.ok.inj hrun
      rw [List.reverse_reverse]
      rfl
  | cons instruction code ih =>
      obtain ⟨after, hstep⟩ := exists_steps_of_ok hrun
      rw [hstep.execute_cons] at hrun
      calc
        execute (instruction :: code ++ second) next stack =
            execute (code ++ second) (next + 1) after := hstep.execute_cons _ _
        _ = execute second (next + 1 + code.length) values.reverse := ih hrun
        _ = execute second (next + (instruction :: code).length) values.reverse := by
          rw [List.length_cons, Nat.add_assoc, Nat.add_comm 1]

/-- Values below the stack stay there, and come out before all others. -/
theorem execute_above (hrun : (execute code next stack).result = .ok values) (start : Nat)
    (below : List Float) :
    (execute code start (stack ++ below)).result = .ok (below.reverse ++ values) := by
  induction code generalizing next start stack with
  | nil =>
      obtain rfl : stack.reverse = values := Except.ok.inj hrun
      rw [execute, List.reverse_append]
  | cons instruction code ih =>
      obtain ⟨after, hstep⟩ := exists_steps_of_ok hrun
      rw [hstep.execute_cons] at hrun
      rw [hstep]
      exact ih hrun (start + 1)

end Run

/-- Two pieces of code that each run well run well one after the other, on machines
in whatever state. -/
theorem Machine.run_append {first second : Code} {values others : List Float}
    {machine : Machine} (hfirst : (machine.run first).1 = .ok values)
    (hsecond : (machine.run second).1 = .ok others) (later : Machine) :
    (later.run (first ++ second)).1 = .ok (values ++ others) := by
  rw [run_fst] at hfirst hsecond
  rw [run_fst, Run.execute_append_of_ok hfirst]
  have habove := Run.execute_above hsecond (0 + first.length) values.reverse
  rwa [List.nil_append, List.reverse_reverse] at habove

end Calculator
