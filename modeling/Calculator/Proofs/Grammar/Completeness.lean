import Calculator.Proofs.Grammar.Soundness

/-!
# Whatever is written is read

The converse of soundness for the precedence grammar: where tokens spell a
canonical tree that is not too deep, the productions return that very tree.  The
tree is found again in the order in which it is climbed.  The leftmost number or
grouping is read first, and each operator on the way up to the root is one turn of
the climb, so the induction over the tree carries along that the climb has come
as far as a given operand.
-/

namespace Calculator

/-! ### Bodies and groupings, under either grammar -/

/-- Where the statement is written, reading returns it.  Ten units of budget for
each level of depth leave room for the calls between two levels. -/
def Statement.Found (rules : Rules) (statement : Statement) : Prop :=
  ∀ {budget : Nat} {cursor after : Cursor},
    Reads rules (.nested statement) statement.depth cursor after → after.AtBoundary →
    cursor.nesting + statement.depth ≤ rules.limit → 10 * statement.depth + 3 < budget →
    Production.statement rules budget cursor = .ok ⟨statement, statement.depth⟩ after

def Statement.AllFound (rules : Rules) (body : List Statement) : Prop :=
  ∀ statement ∈ body, statement.Found rules

namespace Production

variable {rules : Rules} {budget : Nat} {cursor after : Cursor}

/-- The first of several statements is found, and reading goes on behind it. -/
theorem statement_of_found {statement : Statement} {lexemes : List Lexeme}
    (hfound : statement.Found rules) (hcanonical : statement.Canonical rules.grammar)
    (hconsumes : Consumes (statement.lexemes ++ lexemes) cursor after)
    (hboundary : ∀ {middle}, Consumes lexemes middle after → middle.AtBoundary)
    (hnesting : cursor.nesting + statement.depth ≤ rules.limit)
    (hbudget : 10 * statement.depth + 3 < budget) :
    ∃ middle, Production.statement rules budget cursor =
        .ok ⟨statement, statement.depth⟩ middle ∧
      Consumes lexemes middle after ∧ middle.nesting = cursor.nesting := by
  obtain ⟨middle, hstatement, hmore⟩ := hconsumes.exists_append
  have hreads : Reads rules (.nested statement) statement.depth cursor middle :=
    ⟨hstatement, rfl, by omega, hcanonical⟩
  refine ⟨middle, ?_, hmore, hstatement.nesting⟩
  exact hfound hreads (hboundary hmore) hnesting hbudget

theorem closedBody_of_found {opening : Token} {started : Bool} {body : List Statement}
    (hfound : Statement.AllFound rules body)
    (hcanonical : Statement.AllCanonical rules.grammar body)
    (hconsumes : Consumes (Statement.lexemesEach body ++ [Lexeme.rightParen]) cursor after)
    (hnesting : cursor.nesting + Statement.greatestDepth body ≤ rules.limit)
    (hbudget : 10 * Statement.greatestDepth body + 3 < budget)
    (hstarted : started = true ∨ body ≠ []) :
    closedBody (statement rules budget) opening started cursor =
      .ok ⟨body, Statement.greatestDepth body⟩ after := by
  induction body generalizing started cursor with
  | nil =>
      obtain ⟨token, middle, rfl, hlexeme, hend⟩ := hconsumes.exists_cons
      obtain rfl := hend.eq_of_nil
      have hclosing := Token.lexeme_eq_rightParen_iff.1 hlexeme
      have hstarted : started = true := hstarted.resolve_right (by simp)
      rw [closedBody_of_closing hclosing, if_pos hstarted]
      rfl
  | cons first others ih =>
      rw [Statement.greatestDepth] at hnesting hbudget
      rw [Statement.lexemesEach, List.append_assoc] at hconsumes
      obtain ⟨middle, hfirst, hmore, hlevel⟩ :=
        statement_of_found (hfound first List.mem_cons_self) hcanonical.1 hconsumes
          Cursor.atBoundary_of_body (by omega) (show 10 * first.depth + 3 < budget by omega)
      have hothers := ih (fun statement hmem => hfound statement (List.mem_cons_of_mem _ hmem))
        hcanonical.2 hmore (by omega) (by omega) (.inl rfl)
      obtain ⟨token, tail, hrest, hstarts⟩ := Cursor.exists_rest_eq_cons_of_statement hconsumes
      have hopen := Token.isRightParen_eq_false_of_starts hstarts
      rw [← Cursor.before_eq_of_rest_eq hrest] at hfirst ⊢
      rw [closedBody_of_open (shortens_of_statement rules budget) hopen, hfirst, Outcome.bind_ok,
        hothers]
      rfl

theorem openBody_of_found {body : List Statement}
    (hfound : Statement.AllFound rules body)
    (hcanonical : Statement.AllCanonical rules.grammar body)
    (hconsumes : Consumes (Statement.lexemesEach body) cursor after) (hend : after.rest = [])
    (hnesting : cursor.nesting + Statement.greatestDepth body ≤ rules.limit)
    (hbudget : 10 * Statement.greatestDepth body + 3 < budget) :
    openBody (statement rules budget) cursor = .ok body after := by
  induction body generalizing cursor with
  | nil =>
      obtain rfl := hconsumes.eq_of_nil
      exact openBody_of_ended hend
  | cons first others ih =>
      rw [Statement.greatestDepth] at hnesting hbudget
      obtain ⟨middle, hfirst, hmore, hlevel⟩ :=
        statement_of_found (hfound first List.mem_cons_self) hcanonical.1 hconsumes
          (Cursor.atBoundary_of_program hend) (by omega)
          (show 10 * first.depth + 3 < budget by omega)
      have hothers := ih (fun statement hmem => hfound statement (List.mem_cons_of_mem _ hmem))
        hcanonical.2 hmore (by omega) (by omega)
      obtain ⟨token, tail, hrest, -⟩ := Cursor.exists_rest_eq_cons_of_statement hconsumes
      rw [← Cursor.before_eq_of_rest_eq hrest] at hfirst ⊢
      rw [openBody_before (shortens_of_statement rules budget), hfirst, Outcome.bind_ok, hothers]
      rfl

/-- A grouping whose statements are found is found behind its parenthesis. -/
theorem grouping_of_found {opening : Token} {body : List Statement}
    (hfound : Statement.AllFound rules body)
    (hreads : Reads rules (.nested (.grouping body)) (Statement.grouping body).depth
      (cursor.before opening) after)
    (hnesting : cursor.nesting + (Statement.grouping body).depth ≤ rules.limit)
    (hbudget : 10 * (Statement.grouping body).depth ≤ budget) :
    grouping rules budget opening cursor =
      .ok ⟨body, (Statement.grouping body).depth⟩ after := by
  rw [Statement.depth] at hnesting hbudget
  obtain ⟨budget, rfl⟩ : ∃ less, budget = less + 1 := ⟨budget - 1, by omega⟩
  obtain ⟨token, middle, hbefore, -, hbody⟩ := hreads.consumes.exists_cons
  obtain ⟨rfl, -⟩ := Cursor.before_injective hbefore
  obtain ⟨hnonempty, hcanonical⟩ := hreads.canonical
  have hclosed : closedBody (statement rules budget) opening false
      { cursor with nesting := cursor.nesting + 1 } =
        .ok ⟨body, Statement.greatestDepth body⟩ { after with nesting := after.nesting + 1 } :=
    closedBody_of_found hfound hcanonical hbody.nest (show _ + 1 + _ ≤ _ by omega) (by omega)
      (.inr hnonempty)
  exact enclosed_eq_ok_iff.2 ⟨_, _, hclosed, by omega, hreads.depth_le, rfl, rfl⟩

end Production

/-! ### Climbing -/

/-- Where the operand is written, the leftmost number or grouping of it can be
read, and a climb from there comes to the operand itself.  Unless the operand is
that number or grouping, an operator is the first thing on the way. -/
def Operand.Reached (rules : Rules) (operand : Operand) : Prop :=
  ∀ {minimum first second : Nat} {cursor after : Cursor},
    Climbing rules minimum ⟨operand, operand.depth⟩ cursor after →
    cursor.nesting + operand.depth ≤ rules.limit →
    10 * operand.depth < first → 10 * operand.depth < second →
    ∃ left middle, Production.primary rules first cursor = .ok left middle ∧
      Production.climb rules second minimum left middle =
        Production.climb rules second minimum ⟨operand, operand.depth⟩ after ∧
      (operand.operator? = none → middle = after) ∧
      (operand.operator? ≠ none → middle.operator? ≠ none)

theorem Operator.precedence_pos (operator : Operator) : 1 ≤ operator.precedence := by
  cases operator <;> decide

namespace Production

variable {rules : Rules} {budget minimum : Nat} {cursor after : Cursor}

/-- A climb is over at once where the next operator is too weak. -/
theorem climb_of_stops {operand : Measured Operand} (hbudget : 0 < budget)
    (hstops : ∀ next ∈ after.operator?, next.precedence < minimum) :
    climb rules budget minimum operand after = .ok operand after := by
  obtain ⟨budget, rfl⟩ := Nat.exists_eq_add_one.2 hbudget
  rw [climb_eq_operators]
  exact operators_of_done hstops

theorem climbing_of_reached {operand : Operand} (hreached : operand.Reached rules)
    (hclimbed : Climbed rules minimum ⟨operand, operand.depth⟩ cursor after)
    (hnesting : cursor.nesting + operand.depth ≤ rules.limit)
    (hbudget : 10 * operand.depth + 1 < budget) :
    climbing rules budget minimum cursor = .ok ⟨operand, operand.depth⟩ after := by
  obtain ⟨budget, rfl⟩ : ∃ less, budget = less + 1 := ⟨budget - 1, by omega⟩
  obtain ⟨left, middle, hprimary, hclimb, -⟩ :=
    hreached hclimbed.toClimbing hnesting (show _ < budget by omega) (show _ < budget by omega)
  rw [climbing_eq_bind, hprimary, Outcome.bind_ok, hclimb]
  exact climb_of_stops (by omega) hclimbed.stops

/-- One turn of the climb, from the left operand over the operator and the right
operand to their expression. -/
theorem climb_of_right {operator : Operator} {left right : Operand} {token : Token}
    (hoperator : token.operator? = some operator) (hminimum : minimum ≤ operator.precedence)
    (hright : right.Reached rules)
    (hclimbed : Climbed rules (operator.precedence + 1) ⟨right, right.depth⟩ cursor after)
    (hdepth : max left.depth right.depth + 1 ≤ rules.limit)
    (hnesting : cursor.nesting + right.depth ≤ rules.limit)
    (hbudget : 10 * right.depth + 2 < budget) :
    climb rules budget minimum ⟨left, left.depth⟩ (cursor.before token) =
      climb rules budget minimum ⟨.nested (.expression operator left right),
        max left.depth right.depth + 1⟩ after := by
  obtain ⟨budget, rfl⟩ : ∃ less, budget = less + 1 := ⟨budget - 1, by omega⟩
  have hread : climbing rules budget (operator.precedence + 1) cursor =
      .ok ⟨right, right.depth⟩ after :=
    climbing_of_reached hright hclimbed hnesting (by omega)
  have hwithin : Measured.within rules.limit token
      ⟨Operand.nested (.expression operator left right), max left.depth right.depth + 1⟩ after =
        .ok _ after :=
    Measured.within_eq_ok_iff.2 ⟨hdepth, rfl, rfl⟩
  rw [climb_eq_operators, climb_eq_operators,
    operators_of_turn (shortens_of_climbing rules budget _) hoperator hminimum, hread,
    Outcome.bind_ok, hwithin, Outcome.bind_ok]

end Production

namespace Operand

variable {rules : Rules}

theorem reached_number (literal : String) : (Operand.number literal).Reached rules := by
  intro minimum first second cursor after hclimbing _ hfirst _
  obtain ⟨first, rfl⟩ : ∃ less, first = less + 1 := ⟨first - 1, by omega⟩
  obtain ⟨token, middle, rfl, hlexeme, hend⟩ := hclimbing.consumes.exists_cons
  obtain rfl := hend.eq_of_nil
  obtain ⟨hkind, rfl⟩ := Token.lexeme_eq_number_iff.1 hlexeme
  have hnumber : Production.number token middle = .ok token.text middle :=
    Production.number_eq_ok_iff.2 ⟨hclimbing.canonical, rfl, rfl⟩
  refine ⟨⟨.number token.text, 0⟩, middle, ?_, rfl, fun _ => rfl, fun hnone => absurd rfl hnone⟩
  rw [Production.primary_of_number hkind, hnumber]
  rfl

theorem reached_grouping {body : List Statement} (hfound : Statement.AllFound rules body) :
    (Operand.nested (.grouping body)).Reached rules := by
  intro minimum first second cursor after hclimbing hnesting hfirst _
  obtain ⟨first, rfl⟩ : ∃ less, first = less + 1 := ⟨first - 1, by omega⟩
  obtain ⟨token, middle, rfl, hlexeme, -⟩ := hclimbing.consumes.exists_cons
  have hopening := Token.lexeme_eq_leftParen_iff.1 hlexeme
  have hgrouping : Production.grouping rules first token middle =
      .ok ⟨body, (Statement.grouping body).depth⟩ after :=
    Production.grouping_of_found hfound hclimbing.toReads hnesting
      (Nat.le_of_lt_succ hfirst)
  have hoperand : Production.groupingOperand token ⟨body, (Statement.grouping body).depth⟩ after =
      .ok ⟨.nested (.grouping body), (Statement.grouping body).depth⟩ after :=
    Production.groupingOperand_eq_ok_iff.2 ⟨hclimbing.single body rfl, rfl, rfl⟩
  refine ⟨⟨.nested (.grouping body), (Statement.grouping body).depth⟩, after, ?_, rfl,
    fun _ => rfl, fun hnone => absurd rfl hnone⟩
  rw [Production.primary_of_opening hopening, hgrouping, Outcome.bind_ok, hoperand]

theorem reached_expression (hprecedence : rules.grammar = .precedence) {operator : Operator}
    {left right : Operand} (hleft : left.Reached rules) (hright : right.Reached rules) :
    (Operand.nested (.expression operator left right)).Reached rules := by
  intro minimum first second cursor after hclimbing hnesting hfirst hsecond
  have hdepth := hclimbing.depth_le
  simp only [Operand.depth, Statement.depth] at hnesting hfirst hsecond hdepth
  obtain ⟨hjoins, hleftCanonical, hrightCanonical⟩ := hclimbing.canonical
  rw [hprecedence] at hjoins
  obtain ⟨hassociates, htighter, hleftSingle, hrightSingle⟩ := hjoins
  have hminimum : minimum ≤ operator.precedence := hclimbing.binds operator rfl
  obtain ⟨place, hleftTokens, hothers⟩ := hclimbing.consumes.exists_append
  obtain ⟨token, place, rfl, hlexeme, hrightTokens⟩ := hothers.exists_cons
  have hoperator : token.operator? = some operator := Token.lexeme_eq_operator_iff.1 hlexeme
  have hlevel : place.nesting = cursor.nesting := hleftTokens.nesting
  -- The left operand lies on the same climb.  The right one has a climb of its own, which
  -- must stop at `after`: what follows there binds no tighter than this operator.
  have hleftClimbing : Climbing rules minimum ⟨left, left.depth⟩ cursor (place.before token) := by
    refine ⟨⟨hleftTokens, rfl, show left.depth ≤ rules.limit by omega, hleftCanonical⟩, ?_,
      hleftSingle, ?_⟩
    · intro inner hinner
      exact Nat.le_trans hminimum (hassociates inner hinner)
    · intro inner hinner next hnext
      rw [Cursor.operator?_before, hoperator] at hnext
      obtain rfl : operator = next := Option.some.inj hnext
      exact hassociates inner hinner
  have hrightClimbed :
      Climbed rules (operator.precedence + 1) ⟨right, right.depth⟩ place after := by
    refine ⟨⟨⟨hrightTokens, rfl, show right.depth ≤ rules.limit by omega, hrightCanonical⟩,
      htighter, hrightSingle, ?_⟩, ?_⟩
    · intro inner hinner next hnext
      have hweaker := hclimbing.extensible operator rfl next hnext
      exact Nat.le_trans hweaker (Nat.le_of_lt (htighter inner hinner))
    · intro next hnext
      exact Nat.lt_succ_of_le (hclimbing.extensible operator rfl next hnext)
  obtain ⟨start, middle, hprimary, hclimb, hdirect, hindirect⟩ :=
    hleft hleftClimbing (by omega) (show _ < first by omega) (show _ < second by omega)
  refine ⟨start, middle, hprimary, ?_, ?_, ?_⟩
  · rw [hclimb]
    exact Production.climb_of_right hoperator hminimum hright hrightClimbed hdepth (by omega)
      (by omega)
  · intro hnone
    simp [Operand.operator?] at hnone
  · intro _
    by_cases hatom : left.operator? = none
    · rw [hdirect hatom, Cursor.operator?_before, hoperator]
      simp
    · exact hindirect hatom

end Operand

namespace Statement

variable {rules : Rules}

theorem found_grouping (hprecedence : rules.grammar = .precedence) {body : List Statement}
    (hfound : AllFound rules body) : (Statement.grouping body).Found rules := by
  intro budget cursor after hreads hboundary hnesting hbudget
  obtain ⟨budget, rfl⟩ : ∃ less, budget = less + 2 := ⟨budget - 2, by omega⟩
  obtain ⟨token, middle, rfl, hlexeme, -⟩ := hreads.consumes.exists_cons
  have hopening := Token.lexeme_eq_leftParen_iff.1 hlexeme
  have hgrouping : Production.grouping rules budget token middle =
      .ok ⟨body, (Statement.grouping body).depth⟩ after :=
    Production.grouping_of_found hfound hreads hnesting (by omega)
  rw [Production.statement_of_precedence hprecedence,
    Production.climbingStatement_of_opening hopening, hgrouping, Outcome.bind_ok,
    Production.followed, hboundary.operator?_eq_none]
  rfl

/-- A statement may start with a grouping that is the first operand of a longer
expression.  Reading then climbs on from the grouping as it would have done from
an operand. -/
theorem found_expression (hprecedence : rules.grammar = .precedence) {operator : Operator}
    {left right : Operand}
    (hreached : (Operand.nested (.expression operator left right)).Reached rules) :
    (Statement.expression operator left right).Found rules := by
  intro budget cursor after hreads hboundary hnesting hbudget
  obtain ⟨budget, rfl⟩ : ∃ less, budget = less + 2 := ⟨budget - 2, by omega⟩
  have hnone := hboundary.operator?_eq_none
  have hclimbed : Climbed rules 1 ⟨.nested (.expression operator left right),
      (Statement.expression operator left right).depth⟩ cursor after := by
    refine ⟨⟨hreads, ?_, ?_, ?_⟩, ?_⟩
    · intro inner _
      exact inner.precedence_pos
    · simp [Operand.body?]
    · simp [hnone]
    · simp [hnone]
  have hdepth : 10 * (Operand.nested (.expression operator left right)).depth + 1 < budget := by
    rw [Operand.depth]
    omega
  rw [Production.statement_of_precedence hprecedence]
  rcases cursor.eq_end_or_before with hend | ⟨token, behind, rfl⟩
  · have hshorter := hreads.length_rest_lt
    rw [hend] at hshorter
    exact absurd hshorter (Nat.not_lt_zero _)
  · by_cases hopening : token.isLeftParen = true
    · -- The grouping is read by the statement itself, so `primary` is opened to find it there.
      obtain ⟨start, middle, hprimary, hclimb, -, hindirect⟩ :=
        hreached hclimbed.toClimbing hnesting (show _ < budget + 1 by omega)
          (show _ < budget by omega)
      rw [Production.primary_of_opening hopening] at hprimary
      obtain ⟨body, place, hgrouping, hoperand⟩ := Outcome.bind_eq_ok_iff.1 hprimary
      obtain ⟨-, -, rfl⟩ := Production.groupingOperand_eq_ok_iff.1 hoperand
      obtain ⟨next, hnext⟩ :=
        Option.ne_none_iff_exists'.1 (hindirect (by simp [Operand.operator?]))
      rw [Production.climbingStatement_of_opening hopening, hgrouping, Outcome.bind_ok,
        Production.followed, hnext]
      simp only [hoperand, Outcome.bind_ok, hclimb]
      rw [Production.climb_of_stops (by omega) hclimbed.stops]
      rfl
    · rw [Production.climbingStatement_of_other (Bool.eq_false_iff.2 hopening),
        Production.climbing_of_reached hreached hclimbed hnesting hdepth]
      rfl

end Statement

mutual

theorem Operand.reached {rules : Rules} (hprecedence : rules.grammar = .precedence) :
    ∀ operand : Operand, operand.Reached rules
  | .number literal => Operand.reached_number literal
  | .nested statement => (Statement.reached_and_found hprecedence statement).1

theorem Statement.reached_and_found {rules : Rules} (hprecedence : rules.grammar = .precedence) :
    ∀ statement : Statement,
      (Operand.nested statement).Reached rules ∧ statement.Found rules
  | .expression operator left right => by
      have hreached : (Operand.nested (.expression operator left right)).Reached rules :=
        Operand.reached_expression hprecedence (Operand.reached hprecedence left)
          (Operand.reached hprecedence right)
      exact ⟨hreached, Statement.found_expression hprecedence hreached⟩
  | .grouping body => by
      have hfound := Statement.allFound hprecedence body
      exact ⟨Operand.reached_grouping hfound, Statement.found_grouping hprecedence hfound⟩

theorem Statement.allFound {rules : Rules} (hprecedence : rules.grammar = .precedence) :
    ∀ body : List Statement, Statement.AllFound rules body
  | [] => List.forall_mem_nil _
  | statement :: statements =>
      List.forall_mem_cons.2 ⟨(Statement.reached_and_found hprecedence statement).2,
        Statement.allFound hprecedence statements⟩

end

/-- Tokens that spell a canonical program are read as that program, unless it is
too deep, provided that its statements are found. -/
theorem Production.program_of_found {rules : Rules} {tokens : List Token} {program : Program}
    (hfound : Statement.AllFound rules program.body)
    (hlexemes : tokens.map Token.lexeme = program.lexemes)
    (hcanonical : program.Canonical rules.grammar) (hdepth : program.depth ≤ rules.limit) :
    ∃ after, Production.program rules tokens = .ok program after := by
  have hconsumes : Consumes program.lexemes ⟨tokens, 0⟩ ⟨[], 0⟩ :=
    ⟨⟨tokens, (List.append_nil tokens).symm, hlexemes⟩, rfl⟩
  have hbudget : 10 * program.depth + 3 < budgetFor rules.limit := by
    rw [budgetFor]
    omega
  refine ⟨⟨[], 0⟩, ?_⟩
  rw [Production.program, openBody_of_found hfound hcanonical hconsumes rfl
    (by rwa [Nat.zero_add]) hbudget]
  rfl

/-- Tokens that spell a canonical program of the precedence grammar are read as
that program, unless it is too deep. -/
theorem Production.program_of_canonical (rules : Rules) (hprecedence : rules.grammar = .precedence)
    {tokens : List Token} {program : Program}
    (hlexemes : tokens.map Token.lexeme = program.lexemes)
    (hcanonical : program.Canonical rules.grammar) (hdepth : program.depth ≤ rules.limit) :
    ∃ after, Production.program rules tokens = .ok program after :=
  Production.program_of_found (Statement.allFound hprecedence program.body) hlexemes hcanonical
    hdepth

end Calculator
