import Calculator.Machine.Basic
import Calculator.Proofs.Code.Postorder
import Calculator.Proofs.Tree.Form

/-!
# Stack height

How high the stack stands at each point of a piece of code can be told without
running it.  If the analysis finds two values for every operator, and every
literal is a number, then the machine gets through the code and ends at the
height that was foretold.  The code of a tree passes the analysis if each of its
operands leaves some value behind, whatever shape the tree has.
-/

namespace Calculator

/-- The literal that an instruction pushes. -/
def Instruction.literal? : Instruction → Option String
  | .number literal => some literal
  | .operator _ => none

namespace Code

/-- The literals of the code in the order in which they are pushed. -/
def literals (code : Code) : List String :=
  code.filterMap Instruction.literal?

def Readable (code : Code) : Prop :=
  ∀ literal ∈ code.literals, (Number.read? literal).isSome = true

@[simp]
theorem literals_append (first second : Code) :
    literals (first ++ second) = literals first ++ literals second :=
  List.filterMap_append

@[simp]
theorem netEffect_append (first second : Code) :
    netEffect (first ++ second) = netEffect first + netEffect second := by
  induction first with
  | nil => rw [List.nil_append, netEffect, Int.zero_add]
  | cons instruction code ih => rw [List.cons_append, netEffect, netEffect, ih, Int.add_assoc]

/-- The scan of code behind other code goes on at the height that the other code has
led to. -/
theorem peak?_append (first second : Code) (height greatest : Nat) :
    peak? (first ++ second) height greatest =
      (peak? first height greatest).bind (peak? second (height + netEffect first).toNat) := by
  induction first generalizing height greatest with
  | nil =>
      rw [List.nil_append, peak?, Option.bind_some, netEffect, Int.add_zero, Int.toNat_natCast]
  | cons instruction code ih =>
      rw [List.cons_append, netEffect, ← Int.add_assoc]
      cases instruction with
      | number literal => exact ih (height + 1) (max greatest (height + 1))
      | operator operator =>
          rw [peak?, peak?]
          by_cases hheight : height < 2
          · rw [if_pos hheight, if_pos hheight, Option.bind_none]
          · have hlower : (height : Int) + Instruction.stackEffect (.operator operator) =
                (height - 1 : Nat) := by
              rw [Instruction.stackEffect]
              omega
            rw [if_neg hheight, if_neg hheight, hlower]
            exact ih (height - 1) greatest

/-- Code that finds its operands finds them up to any point in it. -/
theorem exists_peak?_of_append {first second : Code} {height greatest peak : Nat}
    (hpeak : peak? (first ++ second) height greatest = some peak) :
    ∃ lower, peak? first height greatest = some lower := by
  rw [peak?_append] at hpeak
  obtain ⟨lower, hlower, -⟩ := Option.bind_eq_some_iff.1 hpeak
  exact ⟨lower, hlower⟩

end Code

namespace Run

/-- The machine gets through a readable piece of code that finds its operands, and
goes on behind it with a stack of the height that was foretold. -/
theorem execute_append_of_peak? {code : Code} {stack : List Float} {greatest peak : Nat}
    (hreadable : code.Readable) (hpeak : code.peak? stack.length greatest = some peak)
    (rest : Code) (next : Nat) :
    ∃ values : List Float,
      execute (code ++ rest) next stack = execute rest (next + code.length) values ∧
      (values.length : Int) = stack.length + code.netEffect := by
  induction code generalizing stack greatest next with
  | nil => exact ⟨stack, rfl, by simp [Code.netEffect]⟩
  | cons instruction code ih =>
      have hreadableTail : Code.Readable code := by
        intro literal hmem
        apply hreadable
        rw [← List.singleton_append, Code.literals_append]
        exact List.mem_append_right _ hmem
      have hnext : next + (instruction :: code).length = next + 1 + code.length := by
        rw [List.length_cons]
        omega
      rw [List.cons_append, hnext, Code.netEffect]
      cases instruction with
      | number literal =>
          obtain ⟨value, hvalue⟩ := Option.isSome_iff_exists.1
            (hreadable literal (by simp [Code.literals, Instruction.literal?]))
          have hpeakTail : Code.peak? code (value :: stack).length
              (max greatest (stack.length + 1)) = some peak := hpeak
          obtain ⟨values, hrun, hlength⟩ := ih hreadableTail hpeakTail (next + 1)
          refine ⟨values, ?_, ?_⟩
          · rw [execute, hvalue]
            exact hrun
          · rw [hlength, List.length_cons, Instruction.stackEffect]
            omega
      | operator operator =>
          rw [Code.peak?] at hpeak
          rcases stack with _ | ⟨right, _ | ⟨left, below⟩⟩
          · simp at hpeak
          · simp at hpeak
          · have hpeakTail : Code.peak? code (operator.apply left right :: below).length
                greatest = some peak := by
              simpa using hpeak
            obtain ⟨values, hrun, hlength⟩ := ih hreadableTail hpeakTail (next + 1)
            refine ⟨values, hrun, ?_⟩
            rw [hlength, Instruction.stackEffect]
            simp only [List.length_cons]
            omega

end Run

/-- A run starts from the empty stack, whatever the machine held. -/
theorem Machine.run_fst (machine : Machine) (code : Code) :
    (machine.run code).1 = (Run.execute code 0 []).result := by
  rw [run, execute_eq]
  rfl

theorem Machine.run_eq_run (machine other : Machine) (code : Code) :
    machine.run code = other.run code := by
  rw [run, run, execute_eq, execute_eq]

/-! ### The code of trees -/

mutual

/-- How many values the code of a tree leaves. -/
def Operand.resultCount : Operand → Nat
  | .number _ => 1
  | .nested statement => statement.resultCount

def Statement.resultCount : Statement → Nat
  | .expression _ left right => left.resultCount + right.resultCount - 1
  | .grouping body => Statement.totalResultCount body

def Statement.totalResultCount : List Statement → Nat
  | [] => 0
  | statement :: statements => statement.resultCount + Statement.totalResultCount statements

end

def Program.resultCount (program : Program) : Nat :=
  Statement.totalResultCount program.body

mutual

/-- Every operand leaves a value, so that no operator is short of one. -/
def Operand.Supplied : Operand → Prop
  | .number _ => True
  | .nested statement => statement.Supplied

def Statement.Supplied : Statement → Prop
  | .expression _ left right =>
      (1 ≤ left.resultCount ∧ left.Supplied) ∧ 1 ≤ right.resultCount ∧ right.Supplied
  | .grouping body => Statement.AllSupplied body

def Statement.AllSupplied : List Statement → Prop
  | [] => True
  | statement :: statements => statement.Supplied ∧ Statement.AllSupplied statements

end

mutual

/-- No grouping in the tree is empty. -/
def Operand.Filled : Operand → Prop
  | .number _ => True
  | .nested statement => statement.Filled

def Statement.Filled : Statement → Prop
  | .expression _ left right => left.Filled ∧ right.Filled
  | .grouping body => body ≠ [] ∧ Statement.AllFilled body

def Statement.AllFilled : List Statement → Prop
  | [] => True
  | statement :: statements => statement.Filled ∧ Statement.AllFilled statements

end

def Program.Filled (program : Program) : Prop :=
  Statement.AllFilled program.body

mutual

theorem Operand.supplied_of_filled : ∀ {operand : Operand}, operand.Filled →
    operand.Supplied ∧ 1 ≤ operand.resultCount
  | .number _, _ => ⟨trivial, Nat.le_refl 1⟩
  | .nested _, hfilled => Statement.supplied_of_filled hfilled

/-- Where no grouping is empty, each part of the tree leaves a value. -/
theorem Statement.supplied_of_filled : ∀ {statement : Statement}, statement.Filled →
    statement.Supplied ∧ 1 ≤ statement.resultCount
  | .expression _ _ _, hfilled => by
      obtain ⟨hleft, hleftCount⟩ := Operand.supplied_of_filled hfilled.1
      obtain ⟨hright, hrightCount⟩ := Operand.supplied_of_filled hfilled.2
      refine ⟨⟨⟨hleftCount, hleft⟩, hrightCount, hright⟩, ?_⟩
      rw [Statement.resultCount]
      omega
  | .grouping _, hfilled => by
      obtain ⟨hsupplied, hcount⟩ := Statement.allSupplied_of_filled hfilled.2
      exact ⟨hsupplied, hcount hfilled.1⟩

theorem Statement.allSupplied_of_filled : ∀ {body : List Statement},
    Statement.AllFilled body →
    Statement.AllSupplied body ∧ (body ≠ [] → 1 ≤ Statement.totalResultCount body)
  | [], _ => ⟨trivial, fun hnonempty => absurd rfl hnonempty⟩
  | _ :: _, hfilled => by
      obtain ⟨hfirst, hcount⟩ := Statement.supplied_of_filled hfilled.1
      obtain ⟨hothers, -⟩ := Statement.allSupplied_of_filled hfilled.2
      refine ⟨⟨hfirst, hothers⟩, fun _ => ?_⟩
      rw [Statement.totalResultCount]
      omega

end

mutual

theorem Operand.netEffect_postorder : ∀ {operand : Operand}, operand.Supplied →
    Code.netEffect operand.postorder = operand.resultCount
  | .number _, _ => rfl
  | .nested _, hsupplied => Statement.netEffect_postorder hsupplied

theorem Statement.netEffect_postorder : ∀ {statement : Statement}, statement.Supplied →
    Code.netEffect statement.postorder = statement.resultCount
  | .expression operator left right, hsupplied => by
      obtain ⟨⟨hleft, hleftSupplied⟩, hright, hrightSupplied⟩ := hsupplied
      have hoperator : Code.netEffect [.operator operator] = -1 := rfl
      rw [Statement.postorder, Code.netEffect_append, Code.netEffect_append,
        Operand.netEffect_postorder hleftSupplied, Operand.netEffect_postorder hrightSupplied,
        hoperator, Statement.resultCount]
      omega
  | .grouping _, hsupplied => Statement.netEffect_postorderEach hsupplied

theorem Statement.netEffect_postorderEach : ∀ {body : List Statement},
    Statement.AllSupplied body →
    Code.netEffect (Statement.postorderEach body) = Statement.totalResultCount body
  | [], _ => rfl
  | statement :: statements, hsupplied => by
      rw [Statement.postorderEach, Code.netEffect_append,
        Statement.netEffect_postorder hsupplied.1, Statement.netEffect_postorderEach hsupplied.2,
        Statement.totalResultCount]
      omega

end

mutual

theorem Operand.peak?_postorder : ∀ {operand : Operand}, operand.Supplied →
    ∀ (code : Code) (height greatest : Nat), ∃ higher,
      Code.peak? (operand.postorder ++ code) height greatest =
        Code.peak? code (height + operand.resultCount) higher ∧
      higher ≤ max greatest (height + operand.resultCount + operand.depth)
  | .number _, _, _, height, greatest =>
      ⟨max greatest (height + 1), rfl, Nat.le_refl _⟩
  | .nested _, hsupplied, code, height, greatest =>
      Statement.peak?_postorder hsupplied code height greatest

/-- The code of a tree finds its operands wherever it starts, ends higher by the
values it leaves, and on the way goes beyond that by the depth of the tree at
most. -/
theorem Statement.peak?_postorder : ∀ {statement : Statement}, statement.Supplied →
    ∀ (code : Code) (height greatest : Nat), ∃ higher,
      Code.peak? (statement.postorder ++ code) height greatest =
        Code.peak? code (height + statement.resultCount) higher ∧
      higher ≤ max greatest (height + statement.resultCount + statement.depth)
  | .expression operator left right, hsupplied, code, height, greatest => by
      obtain ⟨⟨hleft, hleftSupplied⟩, hright, hrightSupplied⟩ := hsupplied
      obtain ⟨middle, hleftPeak, hmiddle⟩ := Operand.peak?_postorder hleftSupplied
        (right.postorder ++ .operator operator :: code) height greatest
      obtain ⟨higher, hrightPeak, hhigher⟩ := Operand.peak?_postorder hrightSupplied
        (.operator operator :: code) (height + left.resultCount) middle
      -- The right operand starts above all values of the left one, and with each operand
      -- leaving a value there are two for the operator.
      have henough : ¬ height + left.resultCount + right.resultCount < 2 := by omega
      have hheight : height + left.resultCount + right.resultCount - 1 =
          height + (left.resultCount + right.resultCount - 1) := by omega
      refine ⟨higher, ?_, ?_⟩
      · rw [Statement.postorder, List.append_assoc, List.append_assoc, List.singleton_append,
          hleftPeak, hrightPeak, Code.peak?, if_neg henough, hheight, Statement.resultCount]
      · rw [Statement.resultCount, Statement.depth]
        omega
  | .grouping _, hsupplied, code, height, greatest => by
      obtain ⟨higher, hpeak, hhigher⟩ :=
        Statement.peak?_postorderEach hsupplied code height greatest
      refine ⟨higher, hpeak, ?_⟩
      rw [Statement.resultCount, Statement.depth]
      omega

theorem Statement.peak?_postorderEach : ∀ {body : List Statement},
    Statement.AllSupplied body → ∀ (code : Code) (height greatest : Nat), ∃ higher,
      Code.peak? (Statement.postorderEach body ++ code) height greatest =
        Code.peak? code (height + Statement.totalResultCount body) higher ∧
      higher ≤ max greatest
        (height + Statement.totalResultCount body + Statement.greatestDepth body)
  | [], _, _, _, greatest => ⟨greatest, rfl, Nat.le_max_left _ _⟩
  | statement :: statements, hsupplied, code, height, greatest => by
      obtain ⟨middle, hfirst, hmiddle⟩ := Statement.peak?_postorder hsupplied.1
        (Statement.postorderEach statements ++ code) height greatest
      obtain ⟨higher, hothers, hhigher⟩ := Statement.peak?_postorderEach hsupplied.2 code
        (height + statement.resultCount) middle
      refine ⟨higher, ?_, ?_⟩
      · rw [Statement.postorderEach, List.append_assoc, hfirst, hothers,
          Statement.totalResultCount, Nat.add_assoc]
      · rw [Statement.totalResultCount, Statement.greatestDepth]
        omega

end

namespace Program

variable {program : Program}

theorem exists_maxStackDepth_lower (hsupplied : Statement.AllSupplied program.body) :
    ∃ peak, program.lower.maxStackDepth = some peak ∧
      peak ≤ program.resultCount + program.depth := by
  obtain ⟨peak, hpeak, hle⟩ := Statement.peak?_postorderEach hsupplied [] 0 0
  refine ⟨peak, ?_, ?_⟩
  · rw [List.append_nil] at hpeak
    rw [lower_eq_postorder, postorder, Code.maxStackDepth, hpeak, Code.peak?]
  · rw [resultCount, depth]
    omega

theorem netEffect_lower (hsupplied : Statement.AllSupplied program.body) :
    program.lower.netEffect = program.resultCount := by
  rw [lower_eq_postorder]
  exact Statement.netEffect_postorderEach hsupplied

theorem resultCount_lower (hsupplied : Statement.AllSupplied program.body) :
    program.lower.resultCount = some program.resultCount := by
  obtain ⟨peak, hpeak, -⟩ := exists_maxStackDepth_lower hsupplied
  rw [Code.resultCount, hpeak, netEffect_lower hsupplied]
  simp

/-- The machine gets through the code of a tree whose operands leave values, and
returns all values that the tree leaves. -/
theorem run_lower (hsupplied : Statement.AllSupplied program.body)
    (hreadable : program.lower.Readable) (machine : Machine) :
    ∃ values, (machine.run program.lower).1 = .ok values ∧
      values.length = program.resultCount := by
  obtain ⟨peak, hpeak, -⟩ := exists_maxStackDepth_lower hsupplied
  have hstart : Code.peak? program.lower ([] : List Float).length 0 = some peak := hpeak
  obtain ⟨stack, hrun, hlength⟩ := Run.execute_append_of_peak? hreadable hstart [] 0
  refine ⟨stack.reverse, ?_, ?_⟩
  · rw [Machine.run_fst, ← List.append_nil program.lower, hrun, Run.execute]
  · rw [netEffect_lower hsupplied, List.length_nil] at hlength
    rw [List.length_reverse]
    omega

end Program

end Calculator
