import Calculator.Proofs.Code.StackHeight
import Mathlib.Data.Nat.Find
import Mathlib.Order.Bounds.Basic

/-!
# What the analysis foretells of a run

Three accounts of one piece of code agree: the scan for its greatest stack height,
the sum of what its instructions do to the height, and the stack of the machine.
As long as no instruction has raised a fault the machine stands at the height that
the sum foretells, so the first instruction that pushes no number, or is an operator
with fewer than two values foretold before it, is the one at which the run stops.
Code without such an instruction is run to its end.
-/

namespace Calculator

namespace Instruction

/-- The fault that an instruction raises at some index when so many values are
available to it. -/
def fault? (index : Nat) (available : Int) : Instruction → Option Fault
  | .number literal =>
      if (Number.read? literal).isSome then none else some (.invalidNumber index literal)
  | .operator symbol =>
      if available < 2 then some (.stackUnderflow index symbol) else none

variable {index : Nat} {available : Int}

theorem fault?_number_eq_none_iff {literal : String} :
    fault? index available (.number literal) = none ↔ (Number.read? literal).isSome = true := by
  by_cases hread : (Number.read? literal).isSome = true
  · simp only [fault?, hread, if_true]
  · simp only [fault?, hread, if_false, reduceCtorEq]

theorem fault?_operator_eq_none_iff {operator : Operator} :
    fault? index available (.operator operator) = none ↔ 2 ≤ available := by
  by_cases hshort : available < 2
  · simp only [fault?, hshort, if_true, reduceCtorEq, Int.not_le.2 hshort]
  · simp only [fault?, hshort, if_false, Int.not_lt.1 hshort]

theorem eq_of_fault?_number {literal : String} {fault : Fault}
    (hfault : fault? index available (.number literal) = some fault) :
    fault = .invalidNumber index literal := by
  rw [fault?] at hfault
  split at hfault
  · cases hfault
  · exact (Option.some.inj hfault).symm

theorem eq_of_fault?_operator {operator : Operator} {fault : Fault}
    (hfault : fault? index available (.operator operator) = some fault) :
    fault = .stackUnderflow index operator := by
  rw [fault?] at hfault
  split at hfault
  · exact (Option.some.inj hfault).symm
  · cases hfault

end Instruction

namespace Code

/-- The fault that the instruction at an index raises, the instructions before it
being taken to have had their effect on the height of the stack. -/
def faultAt? (code : Code) (index : Nat) : Option Fault :=
  code[index]?.bind (Instruction.fault? index (netEffect (code.take index)))

theorem netEffect_take_succ {code : Code} {index : Nat} {instruction : Instruction}
    (hinstruction : code[index]? = some instruction) :
    netEffect (code.take (index + 1)) =
      netEffect (code.take index) + instruction.stackEffect := by
  rw [List.take_add_one, hinstruction, netEffect_append]
  simp [netEffect]

/-! ### The scan and the sum -/

/-- The sum foretells two values for every operator of code that starts at a height. -/
def SuppliedFrom (height : Int) (code : Code) : Prop :=
  ∀ index operator, code[index]? = some (.operator operator) →
    2 ≤ height + netEffect (code.take index)

/-- The heights that the sum foretells between the instructions and at both ends. -/
def heightsFrom (height : Int) (code : Code) : Set Int :=
  {reached | ∃ index ≤ code.length, reached = height + netEffect (code.take index)}

variable {code : Code} {height greatest peak : Nat}

theorem suppliedFrom_cons {height : Int} {instruction : Instruction} :
    SuppliedFrom height (instruction :: code) ↔
      (∀ operator, instruction = .operator operator → 2 ≤ height) ∧
        SuppliedFrom (height + instruction.stackEffect) code := by
  constructor
  · intro hsupplied
    refine ⟨?_, ?_⟩
    · rintro operator rfl
      have hfirst := hsupplied 0 operator rfl
      rwa [List.take_zero, netEffect, Int.add_zero] at hfirst
    · intro index operator hoperator
      have hlater := hsupplied (index + 1) operator hoperator
      rwa [List.take_succ_cons, netEffect, ← Int.add_assoc] at hlater
  · rintro ⟨hfirst, hothers⟩ index operator hoperator
    cases index with
    | zero =>
        rw [List.take_zero, netEffect, Int.add_zero]
        exact hfirst operator (Option.some.inj hoperator)
    | succ index =>
        rw [List.take_succ_cons, netEffect, ← Int.add_assoc]
        exact hothers index operator hoperator

theorem heightsFrom_cons (height : Int) (instruction : Instruction) (code : Code) :
    heightsFrom height (instruction :: code) =
      insert height (heightsFrom (height + instruction.stackEffect) code) := by
  ext reached
  constructor
  · rintro ⟨index, hindex, rfl⟩
    cases index with
    | zero =>
        left
        rw [List.take_zero, netEffect, Int.add_zero]
    | succ index =>
        right
        refine ⟨index, Nat.le_of_succ_le_succ hindex, ?_⟩
        rw [List.take_succ_cons, netEffect, Int.add_assoc]
  · rintro (rfl | ⟨index, hindex, rfl⟩)
    · refine ⟨0, Nat.zero_le _, ?_⟩
      rw [List.take_zero, netEffect, Int.add_zero]
    · refine ⟨index + 1, Nat.succ_le_succ hindex, ?_⟩
      rw [List.take_succ_cons, netEffect, Int.add_assoc]

/-- The scan gets through code just if the sum foretells two values for every
operator. -/
theorem exists_peak?_iff :
    (∃ peak, peak? code height greatest = some peak) ↔ SuppliedFrom height code := by
  induction code generalizing height greatest with
  | nil => simp [peak?, SuppliedFrom]
  | cons instruction code ih =>
      rw [suppliedFrom_cons]
      cases instruction with
      | number literal =>
          have hheight : ((height + 1 : Nat) : Int) = height + 1 := rfl
          rw [peak?, ih, hheight]
          simp [Instruction.stackEffect]
      | operator operator =>
          by_cases hheight : height < 2
          · have hshort : ¬ (2 : Int) ≤ height := by omega
            simp [peak?, hheight, hshort]
          · have hlower : ((height - 1 : Nat) : Int) = height + -1 := by omega
            have henough : (2 : Int) ≤ height := by omega
            rw [peak?, if_neg hheight, ih, hlower]
            simp [Instruction.stackEffect, henough]

theorem start_mem_heightsFrom (height : Int) (code : Code) : height ∈ heightsFrom height code :=
  ⟨0, Nat.zero_le _, (Int.add_zero height).symm⟩

/-- The scan finds the greatest of the heights that the sum foretells. -/
theorem isGreatest_of_peak? (hheight : height ≤ greatest)
    (hpeak : peak? code height greatest = some peak) :
    IsGreatest (insert (greatest : Int) (heightsFrom height code)) peak := by
  induction code generalizing height greatest with
  | nil =>
      obtain rfl : greatest = peak := Option.some.inj hpeak
      refine ⟨Set.mem_insert _ _, ?_⟩
      rintro reached (rfl | ⟨index, -, rfl⟩)
      · exact Int.le_refl _
      · rw [List.take_nil, netEffect]
        omega
  | cons instruction code ih =>
      rw [heightsFrom_cons]
      cases instruction with
      | number literal =>
          obtain ⟨hmem, hupper⟩ := ih (Nat.le_max_right greatest (height + 1)) hpeak
          have hmax := hupper (Set.mem_insert _ _)
          refine ⟨?_, ?_⟩
          -- The scan compares at pushes only: the new greatest is the old one or the height
          -- that the push has just led to.
          · rcases hmem with hmem | hmem
            · rcases Nat.le_total (height + 1) greatest with hle | hle
              · left
                omega
              · right
                right
                obtain rfl : peak = height + 1 := by omega
                exact start_mem_heightsFrom _ code
            · exact .inr (.inr hmem)
          · rintro reached (rfl | rfl | hreached)
            · omega
            · omega
            · exact hupper (.inr hreached)
      | operator operator =>
          have henough : ¬ height < 2 := by
            intro hshort
            simp [peak?, hshort] at hpeak
          rw [peak?, if_neg henough] at hpeak
          obtain ⟨hmem, hupper⟩ := ih (by omega : height - 1 ≤ greatest) hpeak
          have hlower : ((height - 1 : Nat) : Int) = height + -1 := by omega
          rw [hlower] at hmem hupper
          refine ⟨?_, ?_⟩
          · exact hmem.imp id .inr
          · rintro reached (rfl | rfl | hreached)
            · exact hupper (Set.mem_insert _ _)
            · have hgreatest := hupper (Set.mem_insert _ _)
              omega
            · exact hupper (.inr hreached)

/-- Code that finds its operands never leaves fewer values than none. -/
theorem netEffect_nonneg_of_peak? (hpeak : peak? code height greatest = some peak) :
    0 ≤ height + netEffect code := by
  induction code generalizing height greatest with
  | nil =>
      rw [netEffect]
      omega
  | cons instruction code ih =>
      rw [netEffect]
      cases instruction with
      | number literal =>
          have hrest := ih hpeak
          rw [Instruction.stackEffect]
          omega
      | operator operator =>
          rw [peak?] at hpeak
          by_cases hheight : height < 2
          · simp [hheight] at hpeak
          · rw [if_neg hheight] at hpeak
            have hrest := ih hpeak
            rw [Instruction.stackEffect]
            omega

/-- Where the scan gets through, the sum is the number of values left. -/
theorem resultCount_of_maxStackDepth (hpeak : code.maxStackDepth = some peak) :
    code.resultCount = some code.netEffect.toNat := by
  have hnonneg := netEffect_nonneg_of_peak? hpeak
  rw [resultCount, hpeak]
  exact if_neg (by omega)

theorem resultCount_eq_none_iff : code.resultCount = none ↔ code.maxStackDepth = none := by
  cases hpeak : code.maxStackDepth with
  | none => simp [resultCount, hpeak]
  | some peak => simp [resultCount_of_maxStackDepth hpeak]

/-! ### Code without faults -/

theorem number_mem_iff_mem_literals {literal : String} :
    literal ∈ code.literals ↔ .number literal ∈ code := by
  constructor
  · intro hmem
    obtain ⟨instruction, hinstruction, hliteral⟩ := List.mem_filterMap.1 hmem
    cases instruction with
    | number found =>
        obtain rfl : found = literal := Option.some.inj hliteral
        exact hinstruction
    | operator operator => simp [Instruction.literal?] at hliteral
  · intro hmem
    exact List.mem_filterMap.2 ⟨_, hmem, rfl⟩

theorem faultAt?_of_getElem? {index : Nat} {instruction : Instruction}
    (hinstruction : code[index]? = some instruction) :
    code.faultAt? index = instruction.fault? index (netEffect (code.take index)) := by
  rw [faultAt?, hinstruction, Option.bind_some]

/-- No instruction has a fault just if all literals are numbers and the scan gets
through. -/
theorem faultAt?_eq_none_iff :
    (∀ index, code.faultAt? index = none) ↔
      code.Readable ∧ ∃ peak, code.maxStackDepth = some peak := by
  have hsupplied : (∃ peak, code.maxStackDepth = some peak) ↔ SuppliedFrom 0 code :=
    exists_peak?_iff
  rw [hsupplied]
  constructor
  · intro hnone
    refine ⟨?_, ?_⟩
    · intro literal hliteral
      obtain ⟨index, hindex⟩ :=
        List.mem_iff_getElem?.1 (number_mem_iff_mem_literals.1 hliteral)
      have hfault := hnone index
      rw [faultAt?_of_getElem? hindex] at hfault
      exact Instruction.fault?_number_eq_none_iff.1 hfault
    · intro index operator hindex
      have hfault := hnone index
      rw [faultAt?_of_getElem? hindex] at hfault
      rw [Int.zero_add]
      exact Instruction.fault?_operator_eq_none_iff.1 hfault
  · rintro ⟨hreadable, henough⟩ index
    cases hinstruction : code[index]? with
    | none => rw [faultAt?, hinstruction, Option.bind_none]
    | some instruction =>
        rw [faultAt?_of_getElem? hinstruction]
        cases instruction with
        | number literal =>
            apply Instruction.fault?_number_eq_none_iff.2
            exact hreadable literal
              (number_mem_iff_mem_literals.2 (List.mem_of_getElem? hinstruction))
        | operator operator =>
            apply Instruction.fault?_operator_eq_none_iff.2
            have htwo := henough index operator hinstruction
            rwa [Int.zero_add] at htwo

end Code

namespace Run

variable {code : Code} {index : Nat} {stack : List Float} {fault : Fault}

/-- The first instructions of the code, up to an index, are run to their end, and
whatever follows is run on the stack they have left. -/
def Reaches (code : Code) (index : Nat) (stack : List Float) : Prop :=
  index ≤ code.length ∧
    ∀ rest : Code, execute (code.take index ++ rest) 0 [] = execute rest index stack

/-- The heights of the stack in the course of a run. -/
def heights (code : Code) : Set Nat :=
  {height | ∃ index stack, Reaches code index stack ∧ stack.length = height}

/-- A run stands at one stack at each index. -/
theorem Reaches.unique {other : List Float} (hstack : Reaches code index stack)
    (hother : Reaches code index other) : stack = other := by
  have hresult : (execute [] index stack).result = (execute [] index other).result := by
    rw [← hstack.2 [], ← hother.2 []]
  exact List.reverse_inj.1 (Except.ok.inj hresult)

/-- An instruction with a fault stops the run there, and empties the stack unless it
was to push a literal. -/
theorem execute_of_fault? {instruction : Instruction}
    (hfault : instruction.fault? index stack.length = some fault) (rest : Code) :
    execute (instruction :: rest) index stack =
      ⟨.error fault, if instruction.isOperator then [] else stack, index + 1⟩ := by
  cases instruction with
  | number literal =>
      cases hread : Number.read? literal with
      | none =>
          obtain rfl := Instruction.eq_of_fault?_number hfault
          simp [execute, hread, Instruction.isOperator]
      | some value => simp [Instruction.fault?, hread] at hfault
  | operator operator =>
      obtain rfl := Instruction.eq_of_fault?_operator hfault
      rcases stack with _ | ⟨right, _ | ⟨left, below⟩⟩
      · rfl
      · rfl
      · have henough : (2 : Int) ≤ (right :: left :: below).length := by
          simp only [List.length_cons]
          omega
        rw [Instruction.fault?_operator_eq_none_iff.2 henough] at hfault
        cases hfault

/-- The instruction leads from one stack to another, wherever it stands, whatever code
follows and whatever values lie below. -/
def Steps (instruction : Instruction) (stack after : List Float) : Prop :=
  ∀ (rest : Code) (next : Nat) (below : List Float),
    execute (instruction :: rest) next (stack ++ below) = execute rest (next + 1) (after ++ below)

theorem Steps.execute_cons {instruction : Instruction} {after : List Float}
    (hstep : Steps instruction stack after) (rest : Code) (next : Nat) :
    execute (instruction :: rest) next stack = execute rest (next + 1) after := by
  simpa only [List.append_nil] using hstep rest next []

/-- An instruction without a fault hands a stack of the height foretold to whatever
follows. -/
theorem exists_steps_of_fault? {instruction : Instruction}
    (hfault : instruction.fault? index stack.length = none) :
    ∃ after : List Float, Steps instruction stack after ∧
      (after.length : Int) = stack.length + instruction.stackEffect := by
  cases instruction with
  | number literal =>
      cases hread : Number.read? literal with
      | none => simp [Instruction.fault?, hread] at hfault
      | some value =>
          refine ⟨value :: stack, ?_, rfl⟩
          intro rest next below
          rw [execute, hread]
          rfl
  | operator operator =>
      rcases stack with _ | ⟨right, _ | ⟨left, below⟩⟩
      · simp [Instruction.fault?] at hfault
      · simp [Instruction.fault?] at hfault
      · refine ⟨operator.apply left right :: below, fun rest next others => rfl, ?_⟩
        simp only [List.length_cons, Instruction.stackEffect]
        omega

/-- A run comes as far as there is no fault, and then stands at the height that the
sum foretells. -/
theorem exists_reaches (hindex : index ≤ code.length)
    (hnone : ∀ earlier < index, code.faultAt? earlier = none) :
    ∃ stack, Reaches code index stack ∧
      (stack.length : Int) = Code.netEffect (code.take index) := by
  induction index with
  | zero => exact ⟨[], ⟨hindex, fun rest => rfl⟩, rfl⟩
  | succ index ih =>
      obtain ⟨stack, ⟨-, hrun⟩, hlength⟩ :=
        ih (Nat.le_of_succ_le hindex) fun earlier hearlier =>
          hnone earlier (Nat.lt_succ_of_lt hearlier)
      have hinstruction : code[index]? = some (code[index]) := List.getElem?_eq_getElem hindex
      -- The stack has the height foretold, so what was foretold of a fault is true.
      have hfault : code[index].fault? index stack.length = none := by
        have hfaultAt := hnone index (Nat.lt_succ_self index)
        rwa [Code.faultAt?_of_getElem? hinstruction, ← hlength] at hfaultAt
      obtain ⟨after, hstep, hafter⟩ := exists_steps_of_fault? hfault
      refine ⟨after, ⟨hindex, ?_⟩, ?_⟩
      · intro rest
        rw [List.take_add_one, hinstruction, List.append_assoc, hrun]
        exact hstep.execute_cons rest index
      · rw [hafter, hlength, Code.netEffect_take_succ hinstruction]

/-- A run stops at the first fault. -/
theorem result_of_first_faultAt? (hfault : code.faultAt? index = some fault)
    (hnone : ∀ earlier < index, code.faultAt? earlier = none) :
    (execute code 0 []).result = .error fault := by
  obtain ⟨instruction, hinstruction, hfault⟩ := Option.bind_eq_some_iff.1 hfault
  obtain ⟨hindex, rfl⟩ := List.getElem?_eq_some_iff.1 hinstruction
  obtain ⟨stack, ⟨-, hrun⟩, hlength⟩ := exists_reaches (Nat.le_of_lt hindex) hnone
  have hcode : code = code.take index ++ code[index] :: code.drop (index + 1) := by
    rw [← List.drop_eq_getElem_cons hindex, List.take_append_drop]
  rw [hcode, hrun]
  rw [← hlength] at hfault
  rw [execute_of_fault? hfault]

/-- A run without faults ends with as many values as the sum foretells. -/
theorem exists_values_of_no_fault (hnone : ∀ index, code.faultAt? index = none) :
    ∃ values, (execute code 0 []).result = .ok values ∧
      (values.length : Int) = code.netEffect := by
  obtain ⟨stack, ⟨-, hrun⟩, hlength⟩ :=
    exists_reaches (Nat.le_refl code.length) fun earlier _ => hnone earlier
  rw [List.take_length] at hrun hlength
  refine ⟨stack.reverse, ?_, ?_⟩
  · rw [← List.append_nil code, hrun, execute]
  · rw [List.length_reverse, hlength]

/-- Either no instruction has a fault, or one is the first to have one. -/
theorem no_fault_or_first (code : Code) :
    (∀ index, code.faultAt? index = none) ∨
      ∃ index fault, code.faultAt? index = some fault ∧
        ∀ earlier < index, code.faultAt? earlier = none := by
  by_cases hsome : ∃ index, code.faultAt? index ≠ none
  · right
    obtain ⟨fault, hfault⟩ := Option.ne_none_iff_exists'.1 (Nat.find_spec hsome)
    refine ⟨Nat.find hsome, fault, hfault, ?_⟩
    intro earlier hearlier
    exact not_not.1 (Nat.find_min hsome hearlier)
  · left
    intro index
    by_contra hne
    exact hsome ⟨index, hne⟩

theorem result_eq_error_iff :
    (execute code 0 []).result = .error fault ↔
      ∃ index, code.faultAt? index = some fault ∧
        ∀ earlier < index, code.faultAt? earlier = none := by
  constructor
  · intro hrun
    rcases no_fault_or_first code with hnone | ⟨index, first, hfirst, hnone⟩
    · obtain ⟨values, hvalues, -⟩ := exists_values_of_no_fault hnone
      rw [hvalues] at hrun
      exact nomatch hrun
    · rw [result_of_first_faultAt? hfirst hnone] at hrun
      obtain rfl : first = fault := Except.error.inj hrun
      exact ⟨index, hfirst, hnone⟩
  · rintro ⟨index, hfault, hnone⟩
    exact result_of_first_faultAt? hfault hnone

theorem exists_values_iff_no_fault :
    (∃ values, (execute code 0 []).result = .ok values) ↔
      ∀ index, code.faultAt? index = none := by
  constructor
  · rintro ⟨values, hvalues⟩
    rcases no_fault_or_first code with hnone | ⟨index, first, hfirst, hnone⟩
    · exact hnone
    · rw [result_of_first_faultAt? hfirst hnone] at hvalues
      exact nomatch hvalues
  · intro hnone
    obtain ⟨values, hvalues, -⟩ := exists_values_of_no_fault hnone
    exact ⟨values, hvalues⟩

/-- Without faults the heights of the run are those that the sum foretells. -/
theorem mem_heights_iff (hnone : ∀ index, code.faultAt? index = none) {height : Nat} :
    height ∈ heights code ↔ (height : Int) ∈ code.heightsFrom 0 := by
  constructor
  · rintro ⟨index, stack, hreaches, rfl⟩
    obtain ⟨foretold, hforetold, hlength⟩ :=
      exists_reaches hreaches.1 fun earlier _ => hnone earlier
    obtain rfl := hforetold.unique hreaches
    exact ⟨index, hreaches.1, by rw [hlength, Int.zero_add]⟩
  · rintro ⟨index, hindex, hheight⟩
    obtain ⟨stack, hreaches, hlength⟩ := exists_reaches hindex fun earlier _ => hnone earlier
    exact ⟨index, stack, hreaches, by omega⟩

/-- Without faults the scan finds the greatest height of the run. -/
theorem isGreatest_heights {peak : Nat} (hnone : ∀ index, code.faultAt? index = none)
    (hpeak : code.maxStackDepth = some peak) : IsGreatest (heights code) peak := by
  have hgreatest := Code.isGreatest_of_peak? (Nat.le_refl 0) hpeak
  rw [Set.insert_eq_of_mem (Code.start_mem_heightsFrom _ code)] at hgreatest
  refine ⟨(mem_heights_iff hnone).2 hgreatest.1, ?_⟩
  intro height hheight
  exact Int.ofNat_le.1 (hgreatest.2 ((mem_heights_iff hnone).1 hheight))

end Run

namespace Machine

variable {machine : Machine} {code : Code}

theorem evaluate_of_error {fault : Fault} (hrun : (machine.run code).1 = .error fault) :
    (machine.evaluate code).1 = .error fault := by
  simp [evaluate, hrun]

theorem evaluate_of_single {value : Float} (hrun : (machine.run code).1 = .ok [value]) :
    (machine.evaluate code).1 = .ok value := by
  simp [evaluate, hrun]

theorem evaluate_of_length_ne_one {values : List Float}
    (hrun : (machine.run code).1 = .ok values) (hlength : values.length ≠ 1) :
    (machine.evaluate code).1 = .error (.unbalancedStack values.length) := by
  rcases values with _ | ⟨first, _ | ⟨second, others⟩⟩
  · simp [evaluate, hrun]
  · exact absurd rfl hlength
  · simp [evaluate, hrun]

theorem exists_values_iff :
    (∃ values, (machine.run code).1 = .ok values) ↔
      code.Readable ∧ ∃ peak, code.maxStackDepth = some peak := by
  rw [run_fst, Run.exists_values_iff_no_fault, Code.faultAt?_eq_none_iff]

theorem run_eq_error_iff {fault : Fault} :
    (machine.run code).1 = .error fault ↔
      ∃ index, code.faultAt? index = some fault ∧
        ∀ earlier < index, code.faultAt? earlier = none := by
  rw [run_fst, Run.result_eq_error_iff]

/-- A run that succeeds leaves as many values as were counted, and rises as high as
the scan went. -/
theorem foretold_of_ok {values : List Float} (hrun : (machine.run code).1 = .ok values) :
    code.resultCount = some values.length ∧
      ∃ peak, code.maxStackDepth = some peak ∧ IsGreatest (Run.heights code) peak := by
  rw [run_fst] at hrun
  have hnone := Run.exists_values_iff_no_fault.1 ⟨values, hrun⟩
  obtain ⟨-, peak, hpeak⟩ := Code.faultAt?_eq_none_iff.1 hnone
  obtain ⟨foretold, hforetold, hlength⟩ := Run.exists_values_of_no_fault hnone
  obtain rfl : foretold = values := Except.ok.inj (hforetold.symm.trans hrun)
  refine ⟨?_, peak, hpeak, Run.isGreatest_heights hnone hpeak⟩
  rw [Code.resultCount_of_maxStackDepth hpeak, ← hlength, Int.toNat_natCast]

/-- Code has a value just if it is run to its end and one value is counted. -/
theorem exists_value_iff :
    (∃ value, (machine.evaluate code).1 = .ok value) ↔
      (∃ values, (machine.run code).1 = .ok values) ∧ code.resultCount = some 1 := by
  constructor
  · rintro ⟨value, hvalue⟩
    cases hrun : (machine.run code).1 with
    | error fault =>
        rw [evaluate_of_error hrun] at hvalue
        exact nomatch hvalue
    | ok values =>
        have hlength : values.length = 1 := by
          by_contra hne
          rw [evaluate_of_length_ne_one hrun hne] at hvalue
          exact nomatch hvalue
        refine ⟨⟨values, rfl⟩, ?_⟩
        rw [(foretold_of_ok hrun).1, hlength]
  · rintro ⟨⟨values, hrun⟩, hcount⟩
    have hlength : values.length = 1 :=
      Option.some.inj ((foretold_of_ok hrun).1.symm.trans hcount)
    obtain ⟨value, rfl⟩ := List.length_eq_one_iff.1 hlength
    exact ⟨value, evaluate_of_single hrun⟩

/-- The analysis foretells how a run of any code ends on a machine in any state: whether
it succeeds, with how many values and after which greatest height of the stack, or else
at which instruction it stops and with which fault; and whether the code has a value. -/
theorem run_foretold (machine : Machine) (code : Code) :
    ((∃ values, (machine.run code).1 = .ok values) ↔
      code.Readable ∧ ∃ peak, code.maxStackDepth = some peak) ∧
    (∀ values, (machine.run code).1 = .ok values →
      code.resultCount = some values.length ∧
        ∃ peak, code.maxStackDepth = some peak ∧ IsGreatest (Run.heights code) peak) ∧
    (∀ fault, (machine.run code).1 = .error fault ↔
      ∃ index, code.faultAt? index = some fault ∧
        ∀ earlier < index, code.faultAt? earlier = none) ∧
    (code.resultCount = none ↔ code.maxStackDepth = none) ∧
    ((∃ value, (machine.evaluate code).1 = .ok value) ↔
      (∃ values, (machine.run code).1 = .ok values) ∧ code.resultCount = some 1) ∧
    (∀ values, (machine.run code).1 = .ok values → values.length ≠ 1 →
      (machine.evaluate code).1 = .error (.unbalancedStack values.length)) ∧
    (∀ fault, (machine.run code).1 = .error fault →
      (machine.evaluate code).1 = .error fault) :=
  ⟨exists_values_iff, fun _ => foretold_of_ok, fun _ => run_eq_error_iff,
    Code.resultCount_eq_none_iff, exists_value_iff, fun _ => evaluate_of_length_ne_one,
    fun _ => evaluate_of_error⟩

/-- Of an operator short of a value and a later literal that is no number, the first
stops the run. -/
theorem run_foretold_of_two_faults :
    ((default : Machine).run [.number "1", .operator .add, .number "one"]).1 =
      .error (.stackUnderflow 1 .add) :=
  ((run_foretold default _).2.2.1 _).2 ⟨1, by decide, by decide⟩

end Machine

end Calculator
