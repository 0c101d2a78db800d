import Calculator.Proofs.Grammar.Reading

/-!
# Calls

Reading calls productions, and loops over statements and operators.  Each of them has a
few paths, and which one is taken shows in the next token or two.  What a call comes to
is told here for each path, by the calls that are made on it.  Everything that is shown
of the productions later on goes by these paths, so that a change to a production is a
change to its paths.
-/

namespace Calculator

/-! ### Further on -/

/-- The same tokens further on, at the same depth of nesting. -/
structure Cursor.Further (cursor after : Cursor) : Prop where
  tokens : ∃ used, used ≠ [] ∧ cursor.rest = used ++ after.rest
  nesting : after.nesting = cursor.nesting

namespace Cursor.Further

variable {cursor middle after : Cursor} {token : Token}

theorem trans (hfirst : cursor.Further middle) (hsecond : middle.Further after) :
    cursor.Further after := by
  obtain ⟨used, hsome, hrest⟩ := hfirst.tokens
  obtain ⟨more, -, hmiddle⟩ := hsecond.tokens
  refine ⟨⟨used ++ more, List.append_ne_nil_of_left_ne_nil hsome more, ?_⟩,
    hsecond.nesting.trans hfirst.nesting⟩
  rw [hrest, hmiddle, List.append_assoc]

theorem single (token : Token) (cursor : Cursor) : (cursor.before token).Further cursor :=
  ⟨⟨[token], List.cons_ne_nil _ _, rfl⟩, rfl⟩

/-- What is counted up on the way in is counted down on the way out. -/
theorem unnest (hinside : Further { cursor with nesting := cursor.nesting + 1 } after) :
    cursor.Further after.unnest :=
  ⟨hinside.tokens, by simp [Cursor.unnest, hinside.nesting]⟩

/-- What is added may be nothing. -/
theorem trans_or (hfirst : cursor.Further middle)
    (hsecond : after = middle ∨ middle.Further after) : cursor.Further after := by
  rcases hsecond with rfl | hsecond
  · exact hfirst
  · exact hfirst.trans hsecond

theorem length_rest_lt (hfurther : cursor.Further after) :
    after.rest.length < cursor.rest.length := by
  obtain ⟨⟨used, hsome, hrest⟩, -⟩ := hfurther
  have hlength : 0 < used.length := List.length_pos_iff.2 hsome
  rw [hrest, List.length_append]
  omega

end Cursor.Further

/-- A cursor is at the end of the tokens or in front of one of them. -/
theorem Cursor.eq_end_or_before (cursor : Cursor) :
    cursor.rest = [] ∨ ∃ token behind, cursor = Cursor.before behind token := by
  obtain ⟨rest, nesting⟩ := cursor
  cases rest with
  | nil => exact .inl rfl
  | cons token tail => exact .inr ⟨token, ⟨tail, nesting⟩, rfl⟩

/-- A turn that is only taken if tokens have been read is taken if they always are. -/
theorem Outcome.bind_guarded {α β : Type} {outcome : Outcome α} {length : Nat}
    {next : α → Cursor → Outcome β}
    (hshorter : ∀ {value after}, outcome = .ok value after → after.rest.length < length) :
    (outcome.bind fun value after =>
      if after.rest.length < length then next value after else .exhausted) =
      outcome.bind next := by
  cases outcome with
  | ok value after => exact if_pos (hshorter rfl)
  | failed problem stop => rfl
  | exhausted => rfl

namespace Production

/-- A call of a production or of a loop, by the type of what it returns. -/
inductive Call : Type → Type where
  | statement : Call (Measured Statement)
  | grouping (opening : Token) : Call (Measured (List Statement))
  | closedBody (opening : Token) (started : Bool) : Call (Measured (List Statement))
  | openBody : Call (List Statement)
  | climbingStatement : Call (Measured Statement)
  | climbing (minimum : Nat) : Call (Measured Operand)
  | climb (minimum : Nat) (left : Measured Operand) : Call (Measured Operand)
  | operators (minimum : Nat) (left : Measured Operand) : Call (Measured Operand)
  | primary : Call (Measured Operand)
  | chainStatement : Call (Measured Statement)
  | chainExpression (start : Token) : Call (Measured Statement)
  | chainOperand : Call (Measured Operand)

variable {rules : Rules} {budget minimum : Nat} {α : Type} {cursor behind after : Cursor}
  {token opening : Token} {started : Bool} {left : Measured Operand} {operator : Operator}

/-- What a call comes to.  A loop hands its budget on as it is. -/
def Call.read (rules : Rules) (budget : Nat) : Call α → Cursor → Outcome α
  | statement => Production.statement rules budget
  | grouping opening => Production.grouping rules budget opening
  | closedBody opening started =>
      Production.closedBody (Production.statement rules budget) opening started
  | openBody => Production.openBody (Production.statement rules budget)
  | climbingStatement => Production.climbingStatement rules budget
  | climbing minimum => Production.climbing rules budget minimum
  | climb minimum left => Production.climb rules budget minimum left
  | operators minimum left =>
      Production.operators rules.limit (Production.climbing rules budget) minimum left
  | primary => Production.primary rules budget
  | chainStatement => Production.chainStatement rules budget
  | chainExpression start => Production.chainExpression rules budget start
  | chainOperand => Production.chainOperand rules budget

/-! ### Paths through the productions -/

/-- No operand starts here. -/
def NoOperand (cursor : Cursor) : Prop :=
  ∀ token ∈ cursor.rest.head?, token.kind ≠ .number ∧ token.isLeftParen = false

theorem starts_or_noOperand (cursor : Cursor) :
    (∃ token behind, cursor = Cursor.before behind token ∧
      (token.kind = .number ∨ token.isLeftParen = true)) ∨ NoOperand cursor := by
  rcases cursor.eq_end_or_before with hend | ⟨token, behind, rfl⟩
  · right
    intro token htoken
    simp [hend] at htoken
  · by_cases hkind : token.kind = .number
    · exact .inl ⟨token, behind, rfl, .inl hkind⟩
    · by_cases hopening : token.isLeftParen = true
      · exact .inl ⟨token, behind, rfl, .inr hopening⟩
      · right
        rintro _ ⟨⟩
        exact ⟨hkind, Bool.eq_false_iff.2 hopening⟩

/-- The next token, if there is one, is none with which the call can go on.  Only a loop
finds out without a budget. -/
inductive Call.Misses : {α : Type} → Call α → Nat → Cursor → Expectation → Prop where
  | closing (opening : Token) (started : Bool) (budget : Nat) {cursor : Cursor}
      (hend : cursor.rest = []) :
      Misses (.closedBody opening started) budget cursor (.closing opening)
  | expression (opening : Token) (budget : Nat) {token : Token} (behind : Cursor)
      (hclosing : token.isRightParen = true) :
      Misses (.closedBody opening false) budget (behind.before token) .expression
  | climbingStatement (budget : Nat) {cursor : Cursor} (hend : cursor.rest = []) :
      Misses .climbingStatement (budget + 1) cursor .statement
  | primary (budget : Nat) {cursor : Cursor} (hnone : NoOperand cursor) :
      Misses .primary (budget + 1) cursor .operand
  | chainStatement (budget : Nat) {cursor : Cursor} (hend : cursor.rest = []) :
      Misses .chainStatement (budget + 1) cursor .statement
  | numberOrGrouping (budget : Nat) {token : Token} (behind : Cursor)
      (hnone : NoOperand (behind.before token)) :
      Misses .chainStatement (budget + 1) (behind.before token) .numberOrGrouping
  | chainOperand (budget : Nat) {cursor : Cursor} (hnone : NoOperand cursor) :
      Misses .chainOperand (budget + 1) cursor .operand

/-- A body, counted as nested while it is read. -/
def enclosed (limit : Nat) (opening : Token) (body : Cursor → Outcome (Measured (List Statement)))
    (cursor : Cursor) : Outcome (Measured (List Statement)) :=
  (cursor.nest limit opening).bind fun _ inside =>
    (body inside).bind fun body after =>
      Measured.within limit opening ⟨body.value, body.depth + 1⟩ after.unnest

/-- A number, an operator and an operand, counted as nested while they are read. -/
def linked (limit : Nat) (start : Token) (operand : Cursor → Outcome (Measured Operand))
    (cursor : Cursor) : Outcome (Measured Statement) :=
  ((cursor.before start).nest limit start).bind fun _ inside =>
    (number start { inside with rest := cursor.rest }).bind fun left after =>
      (Production.operator after).bind fun operator after =>
        (operand after).bind fun right after =>
          Measured.within limit start
            ⟨.expression operator (.number left) right.value, right.depth + 1⟩ after.unnest

/-- What becomes of a grouping at the start of a statement. -/
def followed (opening : Token)
    (climbed : Measured Operand → Cursor → Outcome (Measured Operand))
    (body : Measured (List Statement)) (after : Cursor) : Outcome (Measured Statement) :=
  match after.operator? with
  | none => .ok (body.map Statement.grouping) after
  | some _ => (groupingOperand opening body after).bind fun left after =>
      (climbed left after).bind finish

theorem enclosed_eq_ok_iff {limit : Nat} {body : Cursor → Outcome (Measured (List Statement))}
    {result : Measured (List Statement)} :
    enclosed limit opening body cursor = .ok result after ↔
      ∃ inner stop, body { cursor with nesting := cursor.nesting + 1 } = .ok inner stop ∧
        cursor.nesting + 1 ≤ limit ∧ inner.depth + 1 ≤ limit ∧
        result = ⟨inner.value, inner.depth + 1⟩ ∧ after = stop.unnest := by
  constructor
  · intro hread
    obtain ⟨_, inside, hnest, hbody⟩ := Outcome.bind_eq_ok_iff.1 hread
    obtain ⟨hlevel, rfl⟩ := Cursor.nest_eq_ok_iff.1 hnest
    obtain ⟨inner, stop, hinner, hwithin⟩ := Outcome.bind_eq_ok_iff.1 hbody
    obtain ⟨hdepth, rfl, rfl⟩ := Measured.within_eq_ok_iff.1 hwithin
    exact ⟨inner, stop, hinner, hlevel, hdepth, rfl, rfl⟩
  · rintro ⟨inner, stop, hinner, hlevel, hdepth, rfl, rfl⟩
    apply Outcome.bind_eq_ok_iff.2
    refine ⟨(), _, Cursor.nest_eq_ok_iff.2 ⟨hlevel, rfl⟩, ?_⟩
    apply Outcome.bind_eq_ok_iff.2
    exact ⟨inner, stop, hinner, Measured.within_eq_ok_iff.2 ⟨hdepth, rfl, rfl⟩⟩

theorem linked_eq_ok_iff {limit : Nat} {start : Token}
    {operand : Cursor → Outcome (Measured Operand)} {result : Measured Statement} :
    linked limit start operand cursor = .ok result after ↔
      ∃ operator place right stop,
        Production.operator { cursor with nesting := cursor.nesting + 1 } = .ok operator place ∧
        operand place = .ok right stop ∧ start.dots ≤ 1 ∧ cursor.nesting + 1 ≤ limit ∧
        right.depth + 1 ≤ limit ∧
        result = ⟨.expression operator (.number start.text) right.value, right.depth + 1⟩ ∧
        after = stop.unnest := by
  constructor
  · intro hread
    obtain ⟨_, inside, hnest, hparts⟩ := Outcome.bind_eq_ok_iff.1 hread
    obtain ⟨hlevel, rfl⟩ := Cursor.nest_eq_ok_iff.1 hnest
    obtain ⟨literal, _, hnumber, hparts⟩ := Outcome.bind_eq_ok_iff.1 hparts
    obtain ⟨hdots, rfl, rfl⟩ := number_eq_ok_iff.1 hnumber
    obtain ⟨operator, place, hoperator, hparts⟩ := Outcome.bind_eq_ok_iff.1 hparts
    obtain ⟨right, stop, hoperand, hwithin⟩ := Outcome.bind_eq_ok_iff.1 hparts
    obtain ⟨hdepth, rfl, rfl⟩ := Measured.within_eq_ok_iff.1 hwithin
    exact ⟨operator, place, right, stop, hoperator, hoperand, hdots, hlevel, hdepth, rfl, rfl⟩
  · rintro ⟨operator, place, right, stop, hoperator, hoperand, hdots, hlevel, hdepth, rfl, rfl⟩
    apply Outcome.bind_eq_ok_iff.2
    refine ⟨(), _, Cursor.nest_eq_ok_iff.2 ⟨hlevel, rfl⟩, ?_⟩
    apply Outcome.bind_eq_ok_iff.2
    refine ⟨start.text, _, number_eq_ok_iff.2 ⟨hdots, rfl, rfl⟩, ?_⟩
    apply Outcome.bind_eq_ok_iff.2
    refine ⟨operator, place, hoperator, ?_⟩
    apply Outcome.bind_eq_ok_iff.2
    exact ⟨right, stop, hoperand, Measured.within_eq_ok_iff.2 ⟨hdepth, rfl, rfl⟩⟩

/-- A grouping is the statement, or it is an operand of it. -/
theorem statement_of_followed
    {climbed : Measured Operand → Cursor → Outcome (Measured Operand)}
    {body : Measured (List Statement)} {result : Measured Statement} {stop : Cursor}
    (hread : followed opening climbed body after = .ok result stop) :
    (result = body.map Statement.grouping ∧ stop = after) ∨
      body.value.length = 1 ∧
        climbed ⟨.nested (.grouping body.value), body.depth⟩ after =
          .ok ⟨.nested result.value, result.depth⟩ stop := by
  rw [followed] at hread
  split at hread
  · obtain ⟨rfl, rfl⟩ : _ ∧ _ := by simpa using hread
    exact .inl ⟨rfl, rfl⟩
  · obtain ⟨left, _, hleft, hclimbed⟩ := Outcome.bind_eq_ok_iff.1 hread
    obtain ⟨hlength, rfl, rfl⟩ := groupingOperand_eq_ok_iff.1 hleft
    obtain ⟨operand, _, hclimb, hfinish⟩ := Outcome.bind_eq_ok_iff.1 hclimbed
    obtain ⟨rfl, rfl⟩ := finish_eq_ok_iff.1 hfinish
    exact .inr ⟨hlength, hclimb⟩

section Loops

variable {read : Cursor → Outcome (Measured Statement)}

theorem closedBody_of_ended (hend : cursor.rest = []) :
    closedBody read opening started cursor =
      .failed (.missing (.closing opening) cursor.rest) cursor := by
  rw [closedBody]
  simp only [hend]
  rfl

theorem closedBody_of_closing (hclosing : token.isRightParen = true) :
    closedBody read opening started (behind.before token) =
      if started then .ok ⟨[], 0⟩ behind
      else .failed (.unexpected .expression token) (behind.before token) := by
  rw [closedBody]
  simp only [Cursor.before, hclosing, if_true]

theorem closedBody_of_open
    (hshortens : ∀ {cursor first after}, read cursor = .ok first after →
      after.rest.length < cursor.rest.length)
    (hopen : token.isRightParen = false) :
    closedBody read opening started (behind.before token) =
      (read (behind.before token)).bind fun first after =>
        (closedBody read opening true after).map fun others =>
          ⟨first.value :: others.value, max first.depth others.depth⟩ := by
  rw [closedBody]
  simp only [Cursor.before, hopen, Bool.false_eq_true, if_false]
  exact Outcome.bind_guarded hshortens

theorem openBody_of_ended (hend : cursor.rest = []) : openBody read cursor = .ok [] cursor := by
  rw [openBody]
  simp only [hend]

theorem openBody_before
    (hshortens : ∀ {cursor first after}, read cursor = .ok first after →
      after.rest.length < cursor.rest.length) :
    openBody read (behind.before token) =
      (read (behind.before token)).bind fun first after =>
        (openBody read after).map (first.value :: ·) := by
  rw [openBody]
  exact Outcome.bind_guarded hshortens

end Loops

section Operators

variable {limit : Nat} {operand : Nat → Cursor → Outcome (Measured Operand)}

theorem operators_of_done
    (hdone : ∀ operator ∈ cursor.operator?, operator.precedence < minimum) :
    operators limit operand minimum left cursor = .ok left cursor := by
  rw [operators]
  split
  · rfl
  · rename_i token tail hrest
    split
    · rfl
    · rename_i operator hoperator
      rw [Cursor.operator?_of_rest_eq hrest, hoperator] at hdone
      exact if_pos (hdone operator rfl)

theorem operators_of_turn
    (hshortens : ∀ {cursor right after}, operand (operator.precedence + 1) cursor =
      .ok right after → after.rest.length < cursor.rest.length)
    (hoperator : token.operator? = some operator) (hminimum : minimum ≤ operator.precedence) :
    operators limit operand minimum left (behind.before token) =
      (operand (operator.precedence + 1) behind).bind fun right after =>
        (Measured.within limit token ⟨.nested (.expression operator left.value right.value),
          max left.depth right.depth + 1⟩ after).bind (operators limit operand minimum) := by
  rw [operators]
  simp only [Cursor.before, hoperator, Nat.not_lt.2 hminimum, if_false]
  cases hright : operand (operator.precedence + 1) behind with
  | ok right after =>
      apply Outcome.bind_guarded
      intro combined stop hwithin
      obtain ⟨-, -, rfl⟩ := Measured.within_eq_ok_iff.1 hwithin
      exact Nat.lt_succ_of_lt (hshortens hright)
  | failed problem stop => rfl
  | exhausted => rfl

end Operators

theorem statement_of_precedence (hgrammar : rules.grammar = .precedence) :
    statement rules (budget + 1) cursor = climbingStatement rules budget cursor := by
  rw [statement]
  simp only [hgrammar]

theorem statement_of_rightRecursive (hgrammar : rules.grammar = .rightRecursive) :
    statement rules (budget + 1) cursor = chainStatement rules budget cursor := by
  rw [statement]
  simp only [hgrammar]

theorem grouping_eq_enclosed :
    grouping rules (budget + 1) opening cursor =
      enclosed rules.limit opening (closedBody (statement rules budget) opening false) cursor :=
  rfl

theorem climbing_eq_bind :
    climbing rules (budget + 1) minimum cursor =
      (primary rules budget cursor).bind (climb rules budget minimum) :=
  rfl

theorem climb_eq_operators :
    climb rules (budget + 1) minimum left cursor =
      operators rules.limit (climbing rules budget) minimum left cursor :=
  rfl

theorem chainExpression_eq_linked :
    chainExpression rules (budget + 1) token cursor =
      linked rules.limit token (chainOperand rules budget) cursor :=
  rfl

theorem climbingStatement_of_opening (hopening : token.isLeftParen = true) :
    climbingStatement rules (budget + 1) (behind.before token) =
      (grouping rules budget token behind).bind (followed token (climb rules budget 1)) := by
  rw [climbingStatement]
  simp only [Cursor.before, hopening, if_true]
  rfl

theorem climbingStatement_of_other (hother : token.isLeftParen = false) :
    climbingStatement rules (budget + 1) (behind.before token) =
      (climbing rules budget 1 (behind.before token)).bind finish := by
  rw [climbingStatement]
  simp only [Cursor.before, hother, Bool.false_eq_true, if_false]

theorem primary_of_number (hkind : token.kind = .number) :
    primary rules (budget + 1) (behind.before token) =
      (number token behind).map fun literal => ⟨.number literal, 0⟩ := by
  rw [primary]
  simp only [Cursor.before, hkind, if_true]

theorem primary_of_opening (hopening : token.isLeftParen = true) :
    primary rules (budget + 1) (behind.before token) =
      (grouping rules budget token behind).bind (groupingOperand token) := by
  rw [primary]
  simp only [Cursor.before, Token.kind_ne_number_of_isLeftParen hopening, hopening, if_false,
    if_true]

theorem chainStatement_of_number (hkind : token.kind = .number) :
    chainStatement rules (budget + 1) (behind.before token) =
      chainExpression rules budget token behind := by
  rw [chainStatement]
  simp only [Cursor.before, hkind, if_true]

theorem chainStatement_of_opening (hopening : token.isLeftParen = true) :
    chainStatement rules (budget + 1) (behind.before token) =
      (grouping rules budget token behind).map (Measured.map Statement.grouping) := by
  rw [chainStatement]
  simp only [Cursor.before, Token.kind_ne_number_of_isLeftParen hopening, hopening, if_false,
    if_true]

theorem chainOperand_of_opening (hopening : token.isLeftParen = true) :
    chainOperand rules (budget + 1) (behind.before token) =
      (grouping rules budget token behind).map
        (Measured.map fun body => .nested (.grouping body)) := by
  rw [chainOperand]
  simp only [Cursor.before, Token.kind_ne_number_of_isLeftParen hopening, hopening, if_false,
    if_true]

theorem goesOn_iff_not_atBoundary :
    (behind.rest.head?.any fun next => next.kind = .operator) = true ↔ ¬ behind.AtBoundary := by
  cases hnext : behind.rest.head? <;> simp [Cursor.AtBoundary, hnext]

theorem chainOperand_of_boundary (hkind : token.kind = .number) (hboundary : behind.AtBoundary) :
    chainOperand rules (budget + 1) (behind.before token) =
      (number token behind).map fun literal => ⟨.number literal, 0⟩ := by
  have hstops := mt goesOn_iff_not_atBoundary.1 (not_not_intro hboundary)
  rw [chainOperand]
  simp only [Cursor.before, hkind, if_true, hstops, Bool.false_eq_true, if_false]

theorem chainOperand_of_operator (hkind : token.kind = .number) (hgoesOn : ¬ behind.AtBoundary) :
    chainOperand rules (budget + 1) (behind.before token) =
      (chainExpression rules budget token behind).map (Measured.map Operand.nested) := by
  rw [chainOperand]
  simp only [Cursor.before, hkind, if_true, goesOn_iff_not_atBoundary.2 hgoesOn]

/-- A call that misses a token fails for it. -/
theorem Call.Misses.read_eq {call : Call α} {expected : Expectation}
    (hmisses : call.Misses budget cursor expected) (rules : Rules) :
    call.read rules budget cursor = .failed (.missing expected cursor.rest) cursor := by
  cases hmisses with
  | closing opening started budget hend => exact closedBody_of_ended hend
  | expression opening budget behind hclosing => exact closedBody_of_closing hclosing
  | climbingStatement budget hend =>
      rw [read, Production.climbingStatement]
      simp only [hend]
      rfl
  | chainStatement budget hend =>
      rw [read, Production.chainStatement]
      simp only [hend]
      rfl
  | primary budget hnone =>
      rw [read, Production.primary]
      rcases cursor.eq_end_or_before with hend | ⟨token, behind, rfl⟩
      · simp only [hend]
        rfl
      · obtain ⟨hkind, hopening⟩ := hnone token rfl
        simp only [Cursor.before, hkind, hopening, Bool.false_eq_true, if_false]
        rfl
  | numberOrGrouping budget behind hnone =>
      obtain ⟨hkind, hopening⟩ := hnone _ rfl
      rw [read, Production.chainStatement]
      simp only [Cursor.before, hkind, hopening, Bool.false_eq_true, if_false]
      rfl
  | chainOperand budget hnone =>
      rw [read, Production.chainOperand]
      rcases cursor.eq_end_or_before with hend | ⟨token, behind, rfl⟩
      · simp only [hend]
        rfl
      · obtain ⟨hkind, hopening⟩ := hnone token rfl
        simp only [Cursor.before, hkind, hopening, Bool.false_eq_true, if_false]
        rfl

end Production

end Calculator
