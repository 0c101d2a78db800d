import Calculator.Proofs.Code.StackHeight

/-!
# The meaning of programs

A statement denotes a list of values: an expression the result of its operator on
the values of its operands, a grouping the values of its statements one after the
other.  An operand denotes a value only if its list has exactly one element, so
the meaning is settled for trees in which every operand is single-valued.  For
these the machine, run on the code of the tree, returns the meaning, or reports
the first literal that is no number.
-/

namespace Calculator

mutual

def Operand.value? : Operand → Option Float
  | .number literal => Number.read? literal
  | .nested statement =>
      match statement.values? with
      | some [value] => some value
      | _ => none

def Statement.values? : Statement → Option (List Float)
  | .expression operator left right =>
      match left.value?, right.value? with
      | some leftValue, some rightValue => some [operator.apply leftValue rightValue]
      | _, _ => none
  | .grouping body => Statement.valuesEach? body

def Statement.valuesEach? : List Statement → Option (List Float)
  | [] => some []
  | statement :: statements =>
      match statement.values?, Statement.valuesEach? statements with
      | some values, some others => some (values ++ others)
      | _, _ => none

end

def Program.values? (program : Program) : Option (List Float) :=
  Statement.valuesEach? program.body

mutual

/-- The literals of a tree from left to right. -/
def Operand.literals : Operand → List String
  | .number literal => [literal]
  | .nested statement => statement.literals

def Statement.literals : Statement → List String
  | .expression _ left right => left.literals ++ right.literals
  | .grouping body => Statement.literalsEach body

def Statement.literalsEach : List Statement → List String
  | [] => []
  | statement :: statements => statement.literals ++ Statement.literalsEach statements

end

def Program.literals (program : Program) : List String :=
  Statement.literalsEach program.body

mutual

/-- How many expressions a statement amounts to, groupings being seen through. -/
def Statement.expressionCount : Statement → Nat
  | .expression .. => 1
  | .grouping body => Statement.totalExpressionCount body

def Statement.totalExpressionCount : List Statement → Nat
  | [] => 0
  | statement :: statements =>
      statement.expressionCount + Statement.totalExpressionCount statements

end

def Program.expressionCount (program : Program) : Nat :=
  Statement.totalExpressionCount program.body

mutual

/-- Every operand in the tree stands for exactly one value. -/
def Operand.SingleValued : Operand → Prop
  | .number _ => True
  | .nested statement => statement.expressionCount = 1 ∧ statement.SingleValued

def Statement.SingleValued : Statement → Prop
  | .expression _ left right => left.SingleValued ∧ right.SingleValued
  | .grouping body => Statement.AllSingleValued body

def Statement.AllSingleValued : List Statement → Prop
  | [] => True
  | statement :: statements => statement.SingleValued ∧ Statement.AllSingleValued statements

end

def Program.SingleValued (program : Program) : Prop :=
  Statement.AllSingleValued program.body

mutual

def Operand.decideSingleValued : ∀ operand : Operand, Decidable operand.SingleValued
  | .number _ => isTrue trivial
  | .nested statement =>
      have := statement.decideSingleValued
      inferInstanceAs (Decidable (statement.expressionCount = 1 ∧ statement.SingleValued))

def Statement.decideSingleValued : ∀ statement : Statement, Decidable statement.SingleValued
  | .expression _ left right =>
      have := left.decideSingleValued
      have := right.decideSingleValued
      inferInstanceAs (Decidable (left.SingleValued ∧ right.SingleValued))
  | .grouping body => Statement.decideAllSingleValued body

def Statement.decideAllSingleValued :
    ∀ body : List Statement, Decidable (Statement.AllSingleValued body)
  | [] => isTrue trivial
  | statement :: statements =>
      have := statement.decideSingleValued
      have := Statement.decideAllSingleValued statements
      inferInstanceAs (Decidable (statement.SingleValued ∧ Statement.AllSingleValued statements))

end

instance (program : Program) : Decidable program.SingleValued :=
  Statement.decideAllSingleValued program.body

mutual

theorem Operand.literals_postorder : ∀ operand : Operand,
    Code.literals operand.postorder = operand.literals
  | .number _ => rfl
  | .nested statement => Statement.literals_postorder statement

theorem Statement.literals_postorder : ∀ statement : Statement,
    Code.literals statement.postorder = statement.literals
  | .expression operator left right => by
      have hoperator : Code.literals [.operator operator] = [] := rfl
      rw [Statement.postorder, Code.literals_append, Code.literals_append,
        Operand.literals_postorder left, Operand.literals_postorder right, hoperator,
        List.append_nil, Statement.literals]
  | .grouping body => Statement.literals_postorderEach body

theorem Statement.literals_postorderEach : ∀ body : List Statement,
    Code.literals (Statement.postorderEach body) = Statement.literalsEach body
  | [] => rfl
  | statement :: statements => by
      rw [Statement.postorderEach, Code.literals_append, Statement.literals_postorder statement,
        Statement.literals_postorderEach statements, Statement.literalsEach]

end

/-- Lowering keeps the literals and their order. -/
theorem Program.literals_lower (program : Program) :
    program.lower.literals = program.literals := by
  rw [lower_eq_postorder]
  exact Statement.literals_postorderEach program.body

/-! ### Code that yields values -/

/-- Wherever the code stands and whatever is on the stack, the machine gets
through it and has then pushed the values. -/
def Code.Yields (code : Code) (values : List Float) : Prop :=
  ∀ (rest : Code) (next : Nat) (stack : List Float),
    Run.execute (code ++ rest) next stack =
      Run.execute rest (next + code.length) (values.reverse ++ stack)

namespace Code.Yields

variable {first second : Code} {values others : List Float}

theorem nil : Yields [] [] :=
  fun _ _ _ => rfl

theorem append (hfirst : Yields first values) (hsecond : Yields second others) :
    Yields (first ++ second) (values ++ others) := by
  intro rest next stack
  rw [List.append_assoc, hfirst, hsecond, List.length_append, List.reverse_append,
    List.append_assoc, Nat.add_assoc]

theorem number {literal : String} {value : Float} (hvalue : Number.read? literal = some value) :
    Yields [.number literal] [value] := by
  intro rest next stack
  rw [List.singleton_append, Run.execute, hvalue]
  rfl

/-- An operator takes the right operand from the top and the left one from below. -/
theorem operator {operator : Operator} {left right : Float} (hcode : Yields first [left, right]) :
    Yields (first ++ [.operator operator]) [operator.apply left right] := by
  intro rest next stack
  rw [List.append_assoc, hcode, List.length_append]
  rfl

end Code.Yields

mutual

theorem Operand.exists_value : ∀ {operand : Operand}, operand.SingleValued →
    (∀ literal ∈ operand.literals, (Number.read? literal).isSome = true) →
    ∃ value, operand.value? = some value ∧ Code.Yields operand.postorder [value]
  | .number literal, _, hreadable => by
      obtain ⟨value, hvalue⟩ := Option.isSome_iff_exists.1 (hreadable literal List.mem_cons_self)
      exact ⟨value, hvalue, Code.Yields.number hvalue⟩
  | .nested statement, hsingle, hreadable => by
      obtain ⟨values, hvalues, hlength, hyields⟩ :=
        Statement.exists_values hsingle.2 hreadable
      rw [hsingle.1] at hlength
      obtain ⟨value, rfl⟩ := List.length_eq_one_iff.1 hlength
      refine ⟨value, ?_, hyields⟩
      rw [Operand.value?, hvalues]

/-- A statement with single-valued operands and readable literals has a meaning,
with one value for each expression, and its code yields that meaning. -/
theorem Statement.exists_values : ∀ {statement : Statement}, statement.SingleValued →
    (∀ literal ∈ statement.literals, (Number.read? literal).isSome = true) →
    ∃ values, statement.values? = some values ∧ values.length = statement.expressionCount ∧
      Code.Yields statement.postorder values
  | .expression operator left right, hsingle, hreadable => by
      obtain ⟨leftValue, hleft, hleftYields⟩ := Operand.exists_value hsingle.1
        fun literal hmem => hreadable literal (List.mem_append_left _ hmem)
      obtain ⟨rightValue, hright, hrightYields⟩ := Operand.exists_value hsingle.2
        fun literal hmem => hreadable literal (List.mem_append_right _ hmem)
      refine ⟨[operator.apply leftValue rightValue], ?_, rfl, ?_⟩
      · rw [Statement.values?, hleft, hright]
      · exact (hleftYields.append hrightYields).operator
  | .grouping _, hsingle, hreadable => Statement.exists_valuesEach hsingle hreadable

theorem Statement.exists_valuesEach : ∀ {body : List Statement},
    Statement.AllSingleValued body →
    (∀ literal ∈ Statement.literalsEach body, (Number.read? literal).isSome = true) →
    ∃ values, Statement.valuesEach? body = some values ∧
      values.length = Statement.totalExpressionCount body ∧
      Code.Yields (Statement.postorderEach body) values
  | [], _, _ => ⟨[], rfl, rfl, Code.Yields.nil⟩
  | statement :: statements, hsingle, hreadable => by
      obtain ⟨values, hvalues, hlength, hyields⟩ := Statement.exists_values hsingle.1
        fun literal hmem => hreadable literal (List.mem_append_left _ hmem)
      obtain ⟨others, hothers, hmore, hothersYield⟩ := Statement.exists_valuesEach hsingle.2
        fun literal hmem => hreadable literal (List.mem_append_right _ hmem)
      refine ⟨values ++ others, ?_, ?_, hyields.append hothersYield⟩
      · rw [Statement.valuesEach?, hvalues, hothers]
      · rw [List.length_append, hlength, hmore, Statement.totalExpressionCount]

end

mutual

theorem Operand.singleValued_of_value? : ∀ {operand : Operand} {value : Float},
    operand.value? = some value → operand.SingleValued
  | .number _, _, _ => trivial
  | .nested statement, value, hvalue => by
      rw [Operand.value?] at hvalue
      split at hvalue
      · rename_i single hvalues
        obtain ⟨hsingle, hlength⟩ := Statement.singleValued_of_values? hvalues
        exact ⟨hlength.symm, hsingle⟩
      · cases hvalue

/-- Only a statement with single-valued operands has a meaning, and the meaning
has a value for each expression. -/
theorem Statement.singleValued_of_values? : ∀ {statement : Statement} {values : List Float},
    statement.values? = some values →
    statement.SingleValued ∧ values.length = statement.expressionCount
  | .expression _ _ _, values, hvalues => by
      rw [Statement.values?] at hvalues
      split at hvalues
      · rename_i leftValue rightValue hleft hright
        obtain rfl := Option.some.inj hvalues
        exact ⟨⟨Operand.singleValued_of_value? hleft, Operand.singleValued_of_value? hright⟩, rfl⟩
      · cases hvalues
  | .grouping _, _, hvalues => Statement.allSingleValued_of_valuesEach? hvalues

theorem Statement.allSingleValued_of_valuesEach? : ∀ {body : List Statement}
    {values : List Float}, Statement.valuesEach? body = some values →
    Statement.AllSingleValued body ∧ values.length = Statement.totalExpressionCount body
  | [], _, hvalues => by
      obtain rfl := Option.some.inj hvalues
      exact ⟨trivial, rfl⟩
  | _ :: _, _, hvalues => by
      rw [Statement.valuesEach?] at hvalues
      split at hvalues
      · rename_i first others hfirst hothers
        obtain rfl := Option.some.inj hvalues
        obtain ⟨hsingle, hlength⟩ := Statement.singleValued_of_values? hfirst
        obtain ⟨hsingleOthers, hmore⟩ := Statement.allSingleValued_of_valuesEach? hothers
        refine ⟨⟨hsingle, hsingleOthers⟩, ?_⟩
        rw [List.length_append, hlength, hmore, Statement.totalExpressionCount]
      · cases hvalues

end

mutual

theorem Operand.supplied_of_singleValued : ∀ {operand : Operand}, operand.SingleValued →
    operand.Supplied ∧ operand.resultCount = 1
  | .number _, _ => ⟨trivial, rfl⟩
  | .nested _, hsingle => by
      obtain ⟨hsupplied, hcount⟩ := Statement.supplied_of_singleValued hsingle.2
      exact ⟨hsupplied, hcount.trans hsingle.1⟩

/-- Single-valued operands leave a value each, so no operator is short of one. -/
theorem Statement.supplied_of_singleValued : ∀ {statement : Statement},
    statement.SingleValued →
    statement.Supplied ∧ statement.resultCount = statement.expressionCount
  | .expression _ _ _, hsingle => by
      obtain ⟨hleft, hleftCount⟩ := Operand.supplied_of_singleValued hsingle.1
      obtain ⟨hright, hrightCount⟩ := Operand.supplied_of_singleValued hsingle.2
      refine ⟨⟨⟨?_, hleft⟩, ?_, hright⟩, ?_⟩
      · exact Nat.le_of_eq hleftCount.symm
      · exact Nat.le_of_eq hrightCount.symm
      · rw [Statement.resultCount, hleftCount, hrightCount, Statement.expressionCount]
  | .grouping _, hsingle => Statement.allSupplied_of_singleValued hsingle

theorem Statement.allSupplied_of_singleValued : ∀ {body : List Statement},
    Statement.AllSingleValued body →
    Statement.AllSupplied body ∧
      Statement.totalResultCount body = Statement.totalExpressionCount body
  | [], _ => ⟨trivial, rfl⟩
  | _ :: _, hsingle => by
      obtain ⟨hfirst, hfirstCount⟩ := Statement.supplied_of_singleValued hsingle.1
      obtain ⟨hothers, hothersCount⟩ := Statement.allSupplied_of_singleValued hsingle.2
      refine ⟨⟨hfirst, hothers⟩, ?_⟩
      rw [Statement.totalResultCount, hfirstCount, hothersCount, Statement.totalExpressionCount]

end

/-- Lowering followed by a run computes the meaning if all literals are numbers. -/
theorem Program.exists_values_and_run {program : Program} (hsingle : program.SingleValued)
    (hreadable : ∀ literal ∈ program.literals, (Number.read? literal).isSome = true)
    (machine : Machine) :
    ∃ values, program.values? = some values ∧ (machine.run program.lower).1 = .ok values := by
  obtain ⟨values, hvalues, -, hyields⟩ := Statement.exists_valuesEach hsingle hreadable
  refine ⟨values, hvalues, ?_⟩
  have hrun := hyields [] 0 []
  rw [List.append_nil, List.append_nil] at hrun
  rw [Machine.run_fst, program.lower_eq_postorder, Program.postorder, hrun, Run.execute,
    List.reverse_reverse]

/-! ### The first literal that is no number -/

/-- Each literal of the code is pushed by an instruction of its own. -/
theorem Code.exists_eq_append_of_literals_eq {code : Code} {before after : List String}
    {literal : String} (hliterals : code.literals = before ++ literal :: after) :
    ∃ first second, code = first ++ .number literal :: second ∧ literals first = before := by
  obtain ⟨first, others, rfl, hfirst, hothers⟩ := List.filterMap_eq_append_iff.1 hliterals
  obtain ⟨skipped, instruction, second, rfl, hskipped, hinstruction, -⟩ :=
    List.filterMap_eq_cons_iff.1 hothers
  have hnumber : instruction = .number literal := by
    cases instruction with
    | number other =>
        obtain rfl : other = literal := Option.some.inj hinstruction
        rfl
    | operator operator => simp [Instruction.literal?] at hinstruction
  have hnone : literals skipped = [] := List.filterMap_eq_nil_iff.2 hskipped
  refine ⟨first ++ skipped, second, ?_, ?_⟩
  · rw [hnumber, List.append_assoc]
  · rw [literals_append, hnone, List.append_nil]
    exact hfirst

/-- The machine stops at the first literal that is no number, unless an operator
before it is short of values. -/
theorem Run.execute_of_unreadable {first second : Code} {literal : String} {stack : List Float}
    {greatest peak : Nat} (hreadable : first.Readable) (hliteral : Number.read? literal = none)
    (hpeak : Code.peak? (first ++ .number literal :: second) stack.length greatest = some peak)
    (next : Nat) :
    (execute (first ++ .number literal :: second) next stack).result =
      .error (.invalidNumber (next + first.length) literal) := by
  obtain ⟨lower, hlower⟩ := Code.exists_peak?_of_append hpeak
  obtain ⟨values, hrun, -⟩ :=
    execute_append_of_peak? hreadable hlower (.number literal :: second) next
  rw [hrun, execute, hliteral]

/-- Lowering followed by a run computes the meaning of a program whose operands
are single-valued, or reports the first literal from the left that is no number,
with its place in the code. -/
theorem run_lower_of_singleValued (program : Program) (machine : Machine)
    (hsingle : program.SingleValued) :
    ((∀ literal ∈ program.literals, (Number.read? literal).isSome = true) →
      ∃ values, program.values? = some values ∧ (machine.run program.lower).1 = .ok values) ∧
    ∀ before literal after, program.literals = before ++ literal :: after →
      (∀ earlier ∈ before, (Number.read? earlier).isSome = true) →
      Number.read? literal = none →
      ∃ index, program.lower[index]? = some (.number literal) ∧
        Code.literals (program.lower.take index) = before ∧
        (machine.run program.lower).1 = .error (.invalidNumber index literal) := by
  constructor
  · intro hreadable
    exact Program.exists_values_and_run hsingle hreadable machine
  · intro before literal after hliterals hbefore hliteral
    obtain ⟨hsupplied, -⟩ := Statement.allSupplied_of_singleValued hsingle
    obtain ⟨peak, hpeak, -⟩ := Program.exists_maxStackDepth_lower hsupplied
    rw [← program.literals_lower] at hliterals
    obtain ⟨first, second, hcode, rfl⟩ := Code.exists_eq_append_of_literals_eq hliterals
    have hstart : Code.peak? (first ++ .number literal :: second) ([] : List Float).length 0 =
        some peak := hcode ▸ hpeak
    have hrun := Run.execute_of_unreadable hbefore hliteral hstart 0
    rw [Nat.zero_add] at hrun
    refine ⟨first.length, ?_, ?_, ?_⟩
    · simp [hcode]
    · rw [hcode, List.take_left]
    · rw [Machine.run_fst, hcode, hrun]

/-- In `9 - (8 - 7) / 2` all literals are numbers.  With `x` for `7`, the third
instruction of the code is the first that cannot be obeyed. -/
theorem run_lower_of_nested_subtraction :
    let program (inner : String) : Program :=
      ⟨[.expression .subtract (.number "9") (.nested (.expression .divide
        (.nested (.grouping [.expression .subtract (.number "8") (.number inner)]))
        (.number "2")))]⟩
    (program "7").SingleValued ∧
      (∃ values, (program "7").values? = some values ∧
        ((default : Machine).run (program "7").lower).1 = .ok values) ∧
      (program "x").SingleValued ∧
      ∃ index, (program "x").lower[index]? = some (.number "x") ∧
        Code.literals ((program "x").lower.take index) = ["9", "8"] ∧
        ((default : Machine).run (program "x").lower).1 = .error (.invalidNumber index "x") := by
  refine ⟨by decide, ?_, by decide, ?_⟩
  · exact (run_lower_of_singleValued _ default (by decide)).1 (by decide +kernel)
  · exact (run_lower_of_singleValued _ default (by decide)).2 ["9", "8"] "x" ["2"] rfl
      (by decide +kernel) (by decide +kernel)

end Calculator
