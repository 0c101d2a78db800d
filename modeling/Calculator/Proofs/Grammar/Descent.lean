import Calculator.Proofs.Grammar.Limit

/-!
# How far reading descends

Each call of a production spends a unit of its budget, so that a budget which lasts
bounds how many calls are unfinished at a time.  The limit counts groupings and the
links of chains only.  Between two groupings a statement under precedence makes few
other calls: an operand binds tighter than the operator before it, and with two
precedences a third climb finds nothing to go on with.  Nine units are enough for
each level that the limit still allows, however many tokens there are.  Long chains
of operators and long bodies are left to the loops, which spend nothing but take a
token each turn.
-/

namespace Calculator

/-- The levels that the limit still allows at a place. -/
def Rules.levels (rules : Rules) (cursor : Cursor) : Nat :=
  rules.limit - cursor.nesting

theorem Rules.levels_of_nesting_eq (rules : Rules) {cursor place : Cursor}
    (hnesting : place.nesting = cursor.nesting) : rules.levels place = rules.levels cursor := by
  rw [levels, levels, hnesting]

theorem Operator.precedence_le (operator : Operator) : operator.precedence ≤ 2 := by
  cases operator <;> decide

/-! ### Outcomes that are not cut off -/

namespace Outcome

variable {α β : Type}

theorem bind_ne_exhausted {outcome : Outcome α} {next : α → Cursor → Outcome β}
    (hfirst : outcome ≠ .exhausted)
    (hnext : ∀ value after, outcome = .ok value after → next value after ≠ .exhausted) :
    outcome.bind next ≠ .exhausted := by
  cases outcome with
  | ok value after => exact hnext value after rfl
  | failed problem stop => simp
  | exhausted => exact absurd rfl hfirst

theorem map_ne_exhausted {outcome : Outcome α} (transform : α → β)
    (houtcome : outcome ≠ .exhausted) : outcome.map transform ≠ .exhausted := by
  apply bind_ne_exhausted houtcome
  intro value after _
  simp

theorem within_ne_exhausted {measured : Measured α} {limit : Nat} {token : Token}
    {cursor : Cursor} : measured.within limit token cursor ≠ .exhausted := by
  rw [Measured.within]
  split <;> simp

/-- What is nested need only last if there is a level for it. -/
theorem nest_bind_ne_exhausted {limit : Nat} {token : Token} {cursor : Cursor}
    {next : Unit → Cursor → Outcome α}
    (hnext : cursor.nesting + 1 ≤ limit →
      next () { cursor with nesting := cursor.nesting + 1 } ≠ .exhausted) :
    (cursor.nest limit token).bind next ≠ .exhausted := by
  apply bind_ne_exhausted
  · rw [Cursor.nest]
    split <;> simp
  · intro _ inside hnest
    obtain ⟨hlevel, rfl⟩ := Cursor.nest_eq_ok_iff.1 hnest
    exact hnext hlevel

end Outcome

namespace Production

variable {rules : Rules} {budget : Nat} {α : Type} {cursor after : Cursor}

/-- Each value that is read takes some of the tokens and leaves the nesting as it was. -/
structure Advances {α : Type} (read : Cursor → Outcome α) : Prop where
  tokens : ∀ {cursor result after}, read cursor = .ok result after →
    ∃ used, used ≠ [] ∧ cursor.rest = used ++ after.rest
  nesting : ∀ {cursor result after}, read cursor = .ok result after →
    after.nesting = cursor.nesting

theorem Advances.of_further {α : Type} {read : Cursor → Outcome α}
    (hfurther : ∀ {cursor result after}, read cursor = .ok result after → cursor.Further after) :
    Advances read where
  tokens := fun hread => (hfurther hread).tokens
  nesting := fun hread => (hfurther hread).nesting

theorem advances_statement (rules : Rules) (budget : Nat) : Advances (statement rules budget) :=
  .of_further fun hread => leavesBehind_of_read .statement hread

theorem advances_climbing (rules : Rules) (budget minimum : Nat) :
    Advances (climbing rules budget minimum) :=
  .of_further fun hread => leavesBehind_of_read (.climbing minimum) hread

/-! ### Steps -/

theorem number_ne_exhausted {token : Token} : number token cursor ≠ .exhausted := by
  rw [number]
  split <;> simp

theorem operator_ne_exhausted : Production.operator cursor ≠ .exhausted := by
  rw [Production.operator]
  split <;> simp

theorem groupingOperand_ne_exhausted {opening : Token} {body : Measured (List Statement)} :
    groupingOperand opening body cursor ≠ .exhausted := by
  rw [groupingOperand]
  split <;> simp

theorem finish_ne_exhausted {operand : Measured Operand} : finish operand cursor ≠ .exhausted := by
  rw [finish]
  split <;> simp

theorem enclosed_ne_exhausted {limit : Nat} {opening : Token}
    {body : Cursor → Outcome (Measured (List Statement))}
    (hbody : cursor.nesting + 1 ≤ limit →
      body { cursor with nesting := cursor.nesting + 1 } ≠ .exhausted) :
    enclosed limit opening body cursor ≠ .exhausted := by
  apply Outcome.nest_bind_ne_exhausted
  intro hlevel
  apply Outcome.bind_ne_exhausted (hbody hlevel)
  intro body after _
  exact Outcome.within_ne_exhausted

theorem linked_ne_exhausted {limit : Nat} {start : Token}
    {operand : Cursor → Outcome (Measured Operand)}
    (hoperand : cursor.nesting + 1 ≤ limit →
      ∀ place : Cursor, place.nesting = cursor.nesting + 1 → operand place ≠ .exhausted) :
    linked limit start operand cursor ≠ .exhausted := by
  apply Outcome.nest_bind_ne_exhausted
  intro hlevel
  apply Outcome.bind_ne_exhausted number_ne_exhausted
  intro left place hnumber
  obtain ⟨-, -, rfl⟩ := number_eq_ok_iff.1 hnumber
  apply Outcome.bind_ne_exhausted operator_ne_exhausted
  intro operator place hoperator
  apply Outcome.bind_ne_exhausted
  · exact hoperand hlevel place (further_of_operator hoperator).nesting
  · intro right after _
    exact Outcome.within_ne_exhausted

theorem followed_ne_exhausted {opening : Token}
    {climbed : Measured Operand → Cursor → Outcome (Measured Operand)}
    {body : Measured (List Statement)} (hclimbed : ∀ left, climbed left cursor ≠ .exhausted) :
    followed opening climbed body cursor ≠ .exhausted := by
  rw [followed]
  split
  · simp
  · apply Outcome.bind_ne_exhausted groupingOperand_ne_exhausted
    intro left place hoperand
    obtain ⟨-, -, rfl⟩ := groupingOperand_eq_ok_iff.1 hoperand
    apply Outcome.bind_ne_exhausted (hclimbed left)
    intro operand stop _
    exact finish_ne_exhausted

/-! ### Call by call -/

/-- How much each call needs of a budget to last: nine units for each level that is left,
and one for each call that it can still make on its own level.  A climb needs the less the
tighter it has to bind. -/
def Call.Affords (rules : Rules) (budget : Nat) {α : Type} (call : Call α) (cursor : Cursor) :
    Prop :=
  let levels := rules.levels cursor
  match call with
  | statement | closedBody _ _ | openBody => 9 * levels + 9 ≤ budget
  | climbingStatement => 9 * levels + 8 ≤ budget
  | climbing minimum => minimum ≤ 3 ∧ 9 * levels + 9 ≤ budget + 2 * minimum
  | climb minimum _ => minimum ≤ 3 ∧ 9 * levels + 8 ≤ budget + 2 * minimum
  | operators minimum _ => minimum ≤ 3 ∧ 9 * levels + 7 ≤ budget + 2 * minimum
  | primary | chainStatement | chainOperand => 9 * levels + 2 ≤ budget
  | grouping _ | chainExpression _ => 9 * levels + 1 ≤ budget

theorem Call.not_affords_zero (call : Call α) (cursor : Cursor) :
    ¬ call.Affords rules 0 cursor := by
  cases call <;> simp only [Affords] <;> omega

/-- Where as many levels are left, as much is needed. -/
theorem Call.Affords.of_nesting_eq {call : Call α} (hnesting : after.nesting = cursor.nesting)
    (haffords : call.Affords rules budget cursor) : call.Affords rules budget after := by
  simpa only [Affords, rules.levels_of_nesting_eq hnesting] using haffords

theorem Descent.ne_exhausted {call : Call α} {outcome : Outcome α}
    (hdescent : Descent rules budget call cursor outcome) :
    call.Affords rules budget cursor → outcome ≠ .exhausted := by
  induction hdescent with
  | exhausted call cursor => exact fun haffords => absurd haffords (call.not_affords_zero cursor)
  | missing => simp
  | statement_of_precedence hgrammar hcall ih =>
      intro haffords
      apply ih
      simp only [Call.Affords] at haffords ⊢
      omega
  | statement_of_rightRecursive hgrammar hcall ih =>
      intro haffords
      apply ih
      simp only [Call.Affords] at haffords ⊢
      omega
  | grouping opening hbody ih =>
      -- A grouping uses up a level, and with it the nine units of that level.
      intro haffords
      apply enclosed_ne_exhausted
      intro hlevel
      apply ih
      simp only [Call.Affords, Rules.levels] at haffords ⊢
      omega
  | closedBody_of_closing => simp
  | closedBody_of_open opening started hopen hfirst hothers ihFirst ihOthers =>
      intro haffords
      apply Outcome.bind_ne_exhausted (ihFirst haffords)
      intro first after hvalue
      apply Outcome.map_ne_exhausted
      exact ihOthers _ _ hvalue (haffords.of_nesting_eq (hfirst.leavesBehind hvalue).nesting)
  | openBody_of_ended => simp
  | openBody_before hfirst hothers ihFirst ihOthers =>
      intro haffords
      apply Outcome.bind_ne_exhausted (ihFirst haffords)
      intro first after hvalue
      apply Outcome.map_ne_exhausted
      exact ihOthers _ _ hvalue (haffords.of_nesting_eq (hfirst.leavesBehind hvalue).nesting)
  | climbingStatement_of_opening hopening hbody hclimb ihBody ihClimb =>
      intro haffords
      apply Outcome.bind_ne_exhausted
      · apply ihBody
        simp only [Call.Affords, Rules.levels, Cursor.before] at haffords ⊢
        omega
      · intro body after hvalue
        have hnesting := (hbody.leavesBehind hvalue).nesting
        apply followed_ne_exhausted
        intro left
        apply ihClimb
        simp only [Call.Affords, rules.levels_of_nesting_eq hnesting] at haffords ⊢
        omega
  | climbingStatement_of_other hother hclimbing ih =>
      intro haffords
      apply Outcome.bind_ne_exhausted
      · apply ih
        simp only [Call.Affords] at haffords ⊢
        omega
      · intro operand after _
        exact finish_ne_exhausted
  | climbing hprimary hclimb ihPrimary ihClimb =>
      rintro ⟨hminimum, haffords⟩
      apply Outcome.bind_ne_exhausted
      · apply ihPrimary
        simp only [Call.Affords] at haffords ⊢
        omega
      · intro left after hvalue
        have hnesting := (hprimary.leavesBehind hvalue).nesting
        apply ihClimb
        simp only [Call.Affords, rules.levels_of_nesting_eq hnesting]
        omega
  | climb hoperators ih =>
      rintro ⟨hminimum, haffords⟩
      apply ih
      simp only [Call.Affords]
      omega
  | operators_of_done => simp
  | @operators_of_turn _ _ _ _ _ operator _ _ hoperator hminimum hright hturned ihRight ihTurned =>
      intro haffords
      have hprecedence := operator.precedence_le
      apply Outcome.bind_ne_exhausted
      · apply ihRight
        simp only [Call.Affords, Rules.levels, Cursor.before] at haffords ⊢
        omega
      · intro right after hvalue
        apply Outcome.bind_ne_exhausted Outcome.within_ne_exhausted
        intro combined stop hwithin
        obtain ⟨-, -, rfl⟩ := Measured.within_eq_ok_iff.1 hwithin
        apply ihTurned _ _ _ hvalue
        exact haffords.of_nesting_eq (hright.leavesBehind hvalue).nesting
  | primary_of_number => exact fun _ => Outcome.map_ne_exhausted _ number_ne_exhausted
  | primary_of_opening hopening hbody ih =>
      intro haffords
      apply Outcome.bind_ne_exhausted
      · exact ih (Nat.le_of_succ_le_succ haffords)
      · intro body after _
        exact groupingOperand_ne_exhausted
  | chainStatement_of_number hkind hexpression ih =>
      exact fun haffords => ih (Nat.le_of_succ_le_succ haffords)
  | chainStatement_of_opening hopening hbody ih =>
      exact fun haffords => Outcome.map_ne_exhausted _ (ih (Nat.le_of_succ_le_succ haffords))
  | chainExpression start hoperand ih =>
      -- So does a link of a chain, of which two calls are made for each level.
      intro haffords
      apply linked_ne_exhausted
      intro hlevel place hnesting
      apply ih
      simp only [Call.Affords, Rules.levels, hnesting] at haffords ⊢
      omega
  | chainOperand_of_boundary => exact fun _ => Outcome.map_ne_exhausted _ number_ne_exhausted
  | chainOperand_of_operator hkind hgoesOn hexpression ih =>
      exact fun haffords => Outcome.map_ne_exhausted _ (ih (Nat.le_of_succ_le_succ haffords))
  | chainOperand_of_opening hopening hbody ih =>
      exact fun haffords => Outcome.map_ne_exhausted _ (ih (Nat.le_of_succ_le_succ haffords))

/-- The budget of a program lasts for its statements. -/
theorem openBody_ne_exhausted (rules : Rules) (tokens : List Token) :
    openBody (statement rules (budgetFor rules.limit)) ⟨tokens, 0⟩ ≠ .exhausted := by
  apply (descent rules (budgetFor rules.limit) .openBody ⟨tokens, 0⟩).ne_exhausted
  simp only [Call.Affords, Rules.levels, budgetFor]
  omega

theorem program_ne_exhausted (rules : Rules) (tokens : List Token) :
    program rules tokens ≠ .exhausted :=
  Outcome.map_ne_exhausted Program.mk (openBody_ne_exhausted rules tokens)

/-- A budget that lasts can be made larger without effect. -/
theorem openBody_of_budget_le {larger : Nat} (hbudget : budget ≤ larger)
    (hlasts : openBody (statement rules budget) cursor ≠ .exhausted) :
    openBody (statement rules larger) cursor = openBody (statement rules budget) cursor := by
  have hfollows := follows_openBody rules.grammar (Nat.le_refl rules.limit) hbudget cursor
  generalize hsmall : openBody (statement rules budget) cursor = strict at hfollows hlasts
  generalize hlarge : openBody (statement rules larger) cursor = loose at hfollows
  cases hfollows with
  | same => rfl
  | exhausted => exact absurd rfl hlasts
  | tooDeep hlower => exact absurd hlower (Nat.lt_irrefl _)

end Production

/-- Reading descends as far as the nesting limit lets it, whatever the tokens are.
With ten units for each level and twenty more it is never cut off, and what it ends
in does not change with a larger budget.  Every turn of the loops over statements
and over operators takes at least one token. -/
theorem program_ne_exhausted_of_limit (rules : Rules) (tokens : List Token) :
    Production.program rules tokens ≠ .exhausted ∧
      (∀ budget, 10 * (rules.limit + 2) ≤ budget →
        (Production.openBody (Production.statement rules budget) ⟨tokens, 0⟩).map Program.mk =
          Production.program rules tokens) ∧
      ∀ budget, Production.Advances (Production.statement rules budget) ∧
        (rules.grammar = .precedence → ∀ minimum,
          Production.Advances (Production.climbing rules budget minimum)) := by
  refine ⟨Production.program_ne_exhausted rules tokens, ?_, ?_⟩
  · intro budget hbudget
    have hlasts := Production.openBody_ne_exhausted rules tokens
    rw [Production.openBody_of_budget_le hbudget hlasts]
    rfl
  · intro budget
    exact ⟨Production.advances_statement rules budget,
      fun _ => Production.advances_climbing rules budget⟩

/-- With one level of nesting the budget is thirty, which is enough for eleven
statements of three tokens each. -/
theorem program_ne_exhausted_of_eleven_statements :
    let rules : Rules := ⟨.precedence, 1⟩
    let tokens : List Token :=
      (List.replicate 11 [⟨.number, "1", 0⟩, ⟨.operator, "+", 1⟩, ⟨.number, "2", 2⟩]).flatten
    Production.budgetFor rules.limit < tokens.length ∧
      Production.program rules tokens ≠ .exhausted ∧
      (Production.openBody (Production.statement rules 31) ⟨tokens, 0⟩).map Program.mk =
        Production.program rules tokens ∧
      Production.Advances (Production.climbing rules 31 2) := by
  intro rules tokens
  obtain ⟨hlasts, hlarger, hadvances⟩ := program_ne_exhausted_of_limit rules tokens
  exact ⟨by decide, hlasts, hlarger 31 (by decide), (hadvances 31).2 rfl 2⟩

end Calculator
