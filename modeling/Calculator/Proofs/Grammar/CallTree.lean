import Calculator.Proofs.Grammar.Call

/-!
# Descents

Reading a program is a tree of calls.  A descent is such a tree: it has a way to go on for
each path through a production, by the calls that are made on this path and by what is
made of their outcomes.  Every reading is a descent, so that what is to be shown of all
productions is shown by induction on the descent.  The first thing to be shown is that a
call leaves the tokens it has read behind and the nesting as it was; the loops are
therefore never cut off.
-/

namespace Calculator

namespace Production

variable {rules : Rules} {budget : Nat} {α : Type} {cursor behind after : Cursor} {token : Token}

/-- A call, the calls it makes, and what it comes to.  There is a way to go on for each
path through a production; what the calls on it come to is left open. -/
inductive Descent (rules : Rules) : {α : Type} → Nat → Call α → Cursor → Outcome α → Prop where
  | exhausted {α : Type} (call : Call α) (cursor : Cursor) :
      Descent rules 0 call cursor .exhausted
  | missing {α : Type} {budget : Nat} {call : Call α} {cursor : Cursor} {expected : Expectation}
      (hmisses : call.Misses budget cursor expected) :
      Descent rules budget call cursor (.failed (.missing expected cursor.rest) cursor)
  | statement_of_precedence {budget : Nat} {cursor : Cursor}
      {outcome : Outcome (Measured Statement)} (hgrammar : rules.grammar = .precedence)
      (hcall : Descent rules budget .climbingStatement cursor outcome) :
      Descent rules (budget + 1) .statement cursor outcome
  | statement_of_rightRecursive {budget : Nat} {cursor : Cursor}
      {outcome : Outcome (Measured Statement)} (hgrammar : rules.grammar = .rightRecursive)
      (hcall : Descent rules budget .chainStatement cursor outcome) :
      Descent rules (budget + 1) .statement cursor outcome
  | grouping (opening : Token) {budget : Nat} {cursor : Cursor}
      {body : Cursor → Outcome (Measured (List Statement))}
      (hbody : ∀ inside, Descent rules budget (.closedBody opening false) inside (body inside)) :
      Descent rules (budget + 1) (.grouping opening) cursor
        (enclosed rules.limit opening body cursor)
  | closedBody_of_closing (opening : Token) {token : Token} (behind : Cursor)
      (hclosing : token.isRightParen = true) (budget : Nat) :
      Descent rules budget (.closedBody opening true) (behind.before token) (.ok ⟨[], 0⟩ behind)
  | closedBody_of_open (opening : Token) (started : Bool) {budget : Nat} {token : Token}
      {behind : Cursor} {first : Outcome (Measured Statement)}
      {others : Cursor → Outcome (Measured (List Statement))}
      (hopen : token.isRightParen = false)
      (hfirst : Descent rules budget .statement (behind.before token) first)
      (hothers : ∀ value after, first = .ok value after →
        Descent rules budget (.closedBody opening true) after (others after)) :
      Descent rules budget (.closedBody opening started) (behind.before token)
        (first.bind fun first after => (others after).map fun others =>
          ⟨first.value :: others.value, max first.depth others.depth⟩)
  | openBody_of_ended {cursor : Cursor} (hend : cursor.rest = []) (budget : Nat) :
      Descent rules budget .openBody cursor (.ok [] cursor)
  | openBody_before {budget : Nat} {token : Token} {behind : Cursor}
      {first : Outcome (Measured Statement)} {others : Cursor → Outcome (List Statement)}
      (hfirst : Descent rules budget .statement (behind.before token) first)
      (hothers : ∀ value after, first = .ok value after →
        Descent rules budget .openBody after (others after)) :
      Descent rules budget .openBody (behind.before token)
        (first.bind fun first after => (others after).map (first.value :: ·))
  | climbingStatement_of_opening {budget : Nat} {token : Token} {behind : Cursor}
      {body : Outcome (Measured (List Statement))}
      {climbed : Measured Operand → Cursor → Outcome (Measured Operand)}
      (hopening : token.isLeftParen = true)
      (hbody : Descent rules budget (.grouping token) behind body)
      (hclimb : ∀ left after, Descent rules budget (.climb 1 left) after (climbed left after)) :
      Descent rules (budget + 1) .climbingStatement (behind.before token)
        (body.bind (followed token climbed))
  | climbingStatement_of_other {budget : Nat} {token : Token} {behind : Cursor}
      {operand : Outcome (Measured Operand)} (hother : token.isLeftParen = false)
      (hclimbing : Descent rules budget (.climbing 1) (behind.before token) operand) :
      Descent rules (budget + 1) .climbingStatement (behind.before token) (operand.bind finish)
  | climbing {budget minimum : Nat} {cursor : Cursor} {first : Outcome (Measured Operand)}
      {climbed : Measured Operand → Cursor → Outcome (Measured Operand)}
      (hprimary : Descent rules budget .primary cursor first)
      (hclimb : ∀ left after,
        Descent rules budget (.climb minimum left) after (climbed left after)) :
      Descent rules (budget + 1) (.climbing minimum) cursor (first.bind climbed)
  | climb {budget minimum : Nat} {left : Measured Operand} {cursor : Cursor}
      {outcome : Outcome (Measured Operand)}
      (hoperators : Descent rules budget (.operators minimum left) cursor outcome) :
      Descent rules (budget + 1) (.climb minimum left) cursor outcome
  | operators_of_done {minimum : Nat} (left : Measured Operand) {cursor : Cursor}
      (hdone : ∀ operator ∈ cursor.operator?, operator.precedence < minimum) (budget : Nat) :
      Descent rules budget (.operators minimum left) cursor (.ok left cursor)
  | operators_of_turn {budget minimum : Nat} {left : Measured Operand} {token : Token}
      {behind : Cursor} {operator : Operator} {right : Outcome (Measured Operand)}
      {turned : Measured Operand → Cursor → Outcome (Measured Operand)}
      (hoperator : token.operator? = some operator) (hminimum : minimum ≤ operator.precedence)
      (hright : Descent rules budget (.climbing (operator.precedence + 1)) behind right)
      (hturned : ∀ value combined after, right = .ok value after →
        Descent rules budget (.operators minimum combined) after (turned combined after)) :
      Descent rules budget (.operators minimum left) (behind.before token)
        (right.bind fun right after =>
          (Measured.within rules.limit token ⟨.nested (.expression operator left.value right.value),
            max left.depth right.depth + 1⟩ after).bind turned)
  | primary_of_number {token : Token} (behind : Cursor) (hkind : token.kind = .number)
      (budget : Nat) :
      Descent rules (budget + 1) .primary (behind.before token)
        ((number token behind).map fun literal => ⟨.number literal, 0⟩)
  | primary_of_opening {budget : Nat} {token : Token} {behind : Cursor}
      {body : Outcome (Measured (List Statement))} (hopening : token.isLeftParen = true)
      (hbody : Descent rules budget (.grouping token) behind body) :
      Descent rules (budget + 1) .primary (behind.before token)
        (body.bind (groupingOperand token))
  | chainStatement_of_number {budget : Nat} {token : Token} {behind : Cursor}
      {outcome : Outcome (Measured Statement)} (hkind : token.kind = .number)
      (hexpression : Descent rules budget (.chainExpression token) behind outcome) :
      Descent rules (budget + 1) .chainStatement (behind.before token) outcome
  | chainStatement_of_opening {budget : Nat} {token : Token} {behind : Cursor}
      {body : Outcome (Measured (List Statement))} (hopening : token.isLeftParen = true)
      (hbody : Descent rules budget (.grouping token) behind body) :
      Descent rules (budget + 1) .chainStatement (behind.before token)
        (body.map (Measured.map Statement.grouping))
  | chainExpression (start : Token) {budget : Nat} {cursor : Cursor}
      {operand : Cursor → Outcome (Measured Operand)}
      (hoperand : ∀ after, Descent rules budget .chainOperand after (operand after)) :
      Descent rules (budget + 1) (.chainExpression start) cursor
        (linked rules.limit start operand cursor)
  | chainOperand_of_boundary {token : Token} {behind : Cursor} (hkind : token.kind = .number)
      (hboundary : behind.AtBoundary) (budget : Nat) :
      Descent rules (budget + 1) .chainOperand (behind.before token)
        ((number token behind).map fun literal => ⟨.number literal, 0⟩)
  | chainOperand_of_operator {budget : Nat} {token : Token} {behind : Cursor}
      {outcome : Outcome (Measured Statement)} (hkind : token.kind = .number)
      (hgoesOn : ¬ behind.AtBoundary)
      (hexpression : Descent rules budget (.chainExpression token) behind outcome) :
      Descent rules (budget + 1) .chainOperand (behind.before token)
        (outcome.map (Measured.map Operand.nested))
  | chainOperand_of_opening {budget : Nat} {token : Token} {behind : Cursor}
      {body : Outcome (Measured (List Statement))} (hopening : token.isLeftParen = true)
      (hbody : Descent rules budget (.grouping token) behind body) :
      Descent rules (budget + 1) .chainOperand (behind.before token)
        (body.map (Measured.map fun body => .nested (.grouping body)))

theorem Descent.of_misses {call : Call α} {expected : Expectation}
    (hmisses : call.Misses budget cursor expected) :
    Descent rules budget call cursor (call.read rules budget cursor) := by
  rw [hmisses.read_eq]
  exact .missing hmisses

/-! ### What a call leaves behind -/

/-- Where a call ends in a value.  A climb only ever adds to the operand it starts from,
and goes further if it adds anything. -/
def Call.LeavesBehind : Call α → Cursor → α → Cursor → Prop
  | grouping opening, cursor, _, after => (cursor.before opening).Further after
  | chainExpression start, cursor, _, after => (cursor.before start).Further after
  | climb _ left, cursor, result, after | operators _ left, cursor, result, after =>
      (after = cursor ∨ cursor.Further after) ∧ left.depth ≤ result.depth
  | openBody, cursor, _, after => after = ⟨[], cursor.nesting⟩
  | statement, cursor, _, after | closedBody _ _, cursor, _, after
  | climbingStatement, cursor, _, after | climbing _, cursor, _, after | primary, cursor, _, after
  | chainStatement, cursor, _, after | chainOperand, cursor, _, after => cursor.Further after

theorem further_of_operator {operator : Operator}
    (hread : Production.operator cursor = .ok operator after) : cursor.Further after := by
  have hconsumes := consumes_of_operator hread
  obtain ⟨⟨used, hrest, hused⟩, hnesting⟩ := hconsumes
  refine ⟨⟨used, ?_, hrest⟩, hnesting⟩
  rintro rfl
  exact nomatch hused

theorem further_of_number {literal : Measured Operand}
    (hread : ((number token behind).map fun literal => ⟨.number literal, 0⟩) = .ok literal after) :
    (behind.before token).Further after := by
  obtain ⟨text, hnumber, -⟩ := Outcome.map_eq_ok_iff.1 hread
  obtain ⟨-, -, rfl⟩ := number_eq_ok_iff.1 hnumber
  exact .single _ _

theorem Descent.leavesBehind {call : Call α} {outcome : Outcome α}
    (hdescent : Descent rules budget call cursor outcome) :
    ∀ {result after}, outcome = .ok result after → call.LeavesBehind cursor result after := by
  induction hdescent with
  | exhausted | missing =>
      intro result after hread
      cases hread
  | statement_of_precedence hgrammar hcall ih => exact ih
  | statement_of_rightRecursive hgrammar hcall ih => exact ih
  | grouping opening hbody ih =>
      intro result after hread
      obtain ⟨inner, stop, hinner, -, -, -, rfl⟩ := enclosed_eq_ok_iff.1 hread
      have hinside := ih _ hinner
      exact (Cursor.Further.single opening _).trans hinside.unnest
  | closedBody_of_closing opening behind hclosing budget =>
      intro result after hread
      obtain ⟨-, rfl⟩ := Outcome.ok.inj hread
      exact .single _ _
  | closedBody_of_open opening started hopen hfirst hothers ihFirst ihOthers =>
      intro result after hread
      obtain ⟨first, middle, hfirst, hmore⟩ := Outcome.bind_eq_ok_iff.1 hread
      obtain ⟨others, stop, hothers, hresult⟩ := Outcome.bind_eq_ok_iff.1 hmore
      obtain ⟨-, rfl⟩ := Outcome.ok.inj hresult
      exact Cursor.Further.trans (ihFirst hfirst) (ihOthers _ _ hfirst hothers)
  | openBody_of_ended hend budget =>
      intro result after hread
      obtain ⟨-, rfl⟩ := Outcome.ok.inj hread
      exact congrArg (Cursor.mk · _) hend
  | openBody_before hfirst hothers ihFirst ihOthers =>
      intro result after hread
      obtain ⟨first, middle, hfirst, hmore⟩ := Outcome.bind_eq_ok_iff.1 hread
      obtain ⟨others, stop, hothers, hresult⟩ := Outcome.bind_eq_ok_iff.1 hmore
      obtain ⟨-, rfl⟩ := Outcome.ok.inj hresult
      have hnesting : middle.nesting = _ := (ihFirst hfirst).nesting
      have hend : stop = ⟨[], middle.nesting⟩ := ihOthers _ _ hfirst hothers
      rwa [hnesting] at hend
  | climbingStatement_of_opening hopening hbody hclimb ihBody ihClimb =>
      intro result after hread
      obtain ⟨body, middle, hbody, hfollowed⟩ := Outcome.bind_eq_ok_iff.1 hread
      have hgrouping : Cursor.Further _ middle := ihBody hbody
      rcases statement_of_followed hfollowed with ⟨-, rfl⟩ | ⟨-, hclimbed⟩
      · exact hgrouping
      · obtain ⟨hend, -⟩ := ihClimb _ _ hclimbed
        exact hgrouping.trans_or hend
  | climbingStatement_of_other hother hclimbing ih =>
      intro result after hread
      obtain ⟨operand, _, hoperand, hfinish⟩ := Outcome.bind_eq_ok_iff.1 hread
      obtain ⟨-, rfl⟩ := finish_eq_ok_iff.1 hfinish
      exact ih hoperand
  | climbing hprimary hclimb ihPrimary ihClimb =>
      intro result after hread
      obtain ⟨left, middle, hleft, hclimbed⟩ := Outcome.bind_eq_ok_iff.1 hread
      obtain ⟨hend, -⟩ := ihClimb _ _ hclimbed
      exact Cursor.Further.trans_or (ihPrimary hleft) hend
  | climb hoperators ih => exact ih
  | operators_of_done left hdone budget =>
      intro result after hread
      obtain ⟨rfl, rfl⟩ := Outcome.ok.inj hread
      exact ⟨.inl rfl, Nat.le_refl _⟩
  | @operators_of_turn _ _ left token _ _ _ _ hoperator hminimum hright hturned ihRight ihTurned =>
      intro result after hread
      obtain ⟨right, middle, hvalue, hcombine⟩ := Outcome.bind_eq_ok_iff.1 hread
      obtain ⟨combined, _, hwithin, hturn⟩ := Outcome.bind_eq_ok_iff.1 hcombine
      obtain ⟨-, rfl, rfl⟩ := Measured.within_eq_ok_iff.1 hwithin
      obtain ⟨hend, hdepth⟩ := ihTurned _ _ _ hvalue hturn
      have hturned := (Cursor.Further.single token _).trans (ihRight hvalue)
      refine ⟨.inr (hturned.trans_or hend), Nat.le_trans ?_ hdepth⟩
      exact Nat.le_succ_of_le (Nat.le_max_left _ _)
  | primary_of_number behind hkind budget =>
      intro result after hread
      exact further_of_number hread
  | primary_of_opening hopening hbody ih =>
      intro result after hread
      obtain ⟨body, _, hbody, hoperand⟩ := Outcome.bind_eq_ok_iff.1 hread
      obtain ⟨-, -, rfl⟩ := groupingOperand_eq_ok_iff.1 hoperand
      exact ih hbody
  | chainStatement_of_number hkind hexpression ih => exact ih
  | chainStatement_of_opening hopening hbody ih =>
      intro result after hread
      obtain ⟨body, hbody, -⟩ := Outcome.map_eq_ok_iff.1 hread
      exact ih hbody
  | chainExpression start hoperand ih =>
      intro result after hread
      obtain ⟨operator, place, right, stop, hoperator, hright, -, -, -, -, rfl⟩ :=
        linked_eq_ok_iff.1 hread
      have hinside := (further_of_operator hoperator).trans (ih _ hright)
      exact (Cursor.Further.single start _).trans hinside.unnest
  | chainOperand_of_boundary hkind hboundary budget =>
      intro result after hread
      exact further_of_number hread
  | chainOperand_of_operator hkind hgoesOn hexpression ih =>
      intro result after hread
      obtain ⟨expression, hexpression, -⟩ := Outcome.map_eq_ok_iff.1 hread
      exact ih hexpression
  | chainOperand_of_opening hopening hbody ih =>
      intro result after hread
      obtain ⟨body, hbody, -⟩ := Outcome.map_eq_ok_iff.1 hread
      exact ih hbody

/-! ### Every reading is a descent -/

section Loops

variable (hstatement : ∀ cursor,
  Descent rules budget .statement cursor (statement rules budget cursor))

theorem shortens_statement (hstatement : ∀ cursor,
    Descent rules budget .statement cursor (statement rules budget cursor))
    {first : Measured Statement} (hread : statement rules budget cursor = .ok first after) :
    after.rest.length < cursor.rest.length :=
  Cursor.Further.length_rest_lt ((hstatement cursor).leavesBehind hread)

include hstatement

theorem descent_closedBody (opening : Token) (started : Bool) (cursor : Cursor) :
    Descent rules budget (.closedBody opening started) cursor
      ((Call.closedBody opening started).read rules budget cursor) := by
  -- Every turn shortens the rest, so the induction is on its length.
  induction hlength : cursor.rest.length using Nat.strongRecOn generalizing started cursor with
  | ind length ih =>
    rw [Call.read]
    rcases cursor.eq_end_or_before with hend | ⟨token, behind, rfl⟩
    · rw [closedBody_of_ended hend]
      exact .missing (.closing opening started budget hend)
    · by_cases hclosing : token.isRightParen = true
      · rw [closedBody_of_closing hclosing]
        cases started with
        | true => exact .closedBody_of_closing opening behind hclosing budget
        | false => exact .missing (.expression opening budget behind hclosing)
      · have hopen := Bool.eq_false_iff.2 hclosing
        rw [closedBody_of_open (shortens_statement hstatement) hopen]
        apply Descent.closedBody_of_open opening started hopen (hstatement _)
        intro first after hfirst
        exact ih _ (hlength ▸ shortens_statement hstatement hfirst) true after rfl

theorem descent_openBody (cursor : Cursor) :
    Descent rules budget .openBody cursor (Call.openBody.read rules budget cursor) := by
  induction hlength : cursor.rest.length using Nat.strongRecOn generalizing cursor with
  | ind length ih =>
    rw [Call.read]
    rcases cursor.eq_end_or_before with hend | ⟨token, behind, rfl⟩
    · rw [openBody_of_ended hend]
      exact .openBody_of_ended hend budget
    · rw [openBody_before (shortens_statement hstatement)]
      apply Descent.openBody_before (hstatement _)
      intro first after hfirst
      exact ih _ (hlength ▸ shortens_statement hstatement hfirst) after rfl

end Loops

theorem descent_operators
    (hclimbing : ∀ minimum cursor,
      Descent rules budget (.climbing minimum) cursor (climbing rules budget minimum cursor))
    (minimum : Nat) (left : Measured Operand) (cursor : Cursor) :
    Descent rules budget (.operators minimum left) cursor
      ((Call.operators minimum left).read rules budget cursor) := by
  have hshortens {tighter : Nat} {cursor after : Cursor} {right : Measured Operand}
      (hread : climbing rules budget tighter cursor = .ok right after) :
      after.rest.length < cursor.rest.length :=
    Cursor.Further.length_rest_lt ((hclimbing tighter cursor).leavesBehind hread)
  induction hlength : cursor.rest.length using Nat.strongRecOn generalizing left cursor with
  | ind length ih =>
    rw [Call.read]
    by_cases hdone : ∀ operator ∈ cursor.operator?, operator.precedence < minimum
    · rw [operators_of_done hdone]
      exact .operators_of_done left hdone budget
    · simp only [Classical.not_forall, Nat.not_lt] at hdone
      obtain ⟨operator, hoperator, hminimum⟩ := hdone
      rcases cursor.eq_end_or_before with hend | ⟨token, behind, rfl⟩
      · simp [Cursor.operator?, hend] at hoperator
      · rw [operators_of_turn hshortens hoperator hminimum]
        apply Descent.operators_of_turn hoperator hminimum (hclimbing _ _)
        intro right combined after hright
        have hshorter : after.rest.length < length :=
          hlength ▸ Nat.lt_succ_of_lt (hshortens hright)
        exact ih _ hshorter combined after rfl

section Productions

variable (hcalls : ∀ {α : Type} (call : Call α) (cursor : Cursor),
  Descent rules budget call cursor (call.read rules budget cursor))

include hcalls

theorem descent_climbingStatement (cursor : Cursor) :
    Descent rules (budget + 1) .climbingStatement cursor
      (climbingStatement rules (budget + 1) cursor) := by
  rcases cursor.eq_end_or_before with hend | ⟨token, behind, rfl⟩
  · exact .of_misses (.climbingStatement budget hend)
  · by_cases hopening : token.isLeftParen = true
    · rw [climbingStatement_of_opening hopening]
      exact .climbingStatement_of_opening hopening (hcalls (.grouping token) behind)
        fun left after => hcalls (.climb 1 left) after
    · have hother := Bool.eq_false_iff.2 hopening
      rw [climbingStatement_of_other hother]
      exact .climbingStatement_of_other hother (hcalls (.climbing 1) _)

theorem descent_primary (cursor : Cursor) :
    Descent rules (budget + 1) .primary cursor (primary rules (budget + 1) cursor) := by
  rcases starts_or_noOperand cursor with ⟨token, behind, rfl, hkind | hopening⟩ | hnone
  · rw [primary_of_number hkind]
    exact .primary_of_number behind hkind budget
  · rw [primary_of_opening hopening]
    exact .primary_of_opening hopening (hcalls (.grouping token) behind)
  · exact .of_misses (.primary budget hnone)

theorem descent_chainStatement (cursor : Cursor) :
    Descent rules (budget + 1) .chainStatement cursor
      (chainStatement rules (budget + 1) cursor) := by
  rcases starts_or_noOperand cursor with ⟨token, behind, rfl, hkind | hopening⟩ | hnone
  · rw [chainStatement_of_number hkind]
    exact .chainStatement_of_number hkind (hcalls (.chainExpression token) behind)
  · rw [chainStatement_of_opening hopening]
    exact .chainStatement_of_opening hopening (hcalls (.grouping token) behind)
  · rcases cursor.eq_end_or_before with hend | ⟨token, behind, rfl⟩
    · exact .of_misses (.chainStatement budget hend)
    · exact .of_misses (.numberOrGrouping budget behind hnone)

theorem descent_chainOperand (cursor : Cursor) :
    Descent rules (budget + 1) .chainOperand cursor (chainOperand rules (budget + 1) cursor) := by
  rcases starts_or_noOperand cursor with ⟨token, behind, rfl, hkind | hopening⟩ | hnone
  · by_cases hboundary : behind.AtBoundary
    · rw [chainOperand_of_boundary hkind hboundary]
      exact .chainOperand_of_boundary hkind hboundary budget
    · rw [chainOperand_of_operator hkind hboundary]
      exact .chainOperand_of_operator hkind hboundary (hcalls (.chainExpression token) behind)
  · rw [chainOperand_of_opening hopening]
    exact .chainOperand_of_opening hopening (hcalls (.grouping token) behind)
  · exact .of_misses (.chainOperand budget hnone)

end Productions

/-- Every reading is a descent. -/
theorem descent (rules : Rules) (budget : Nat) (call : Call α) (cursor : Cursor) :
    Descent rules budget call cursor (call.read rules budget cursor) := by
  -- Each unit of the budget leads one call further in; the loops follow from the calls that
  -- they make with the same budget.
  induction budget generalizing α cursor with
  | zero =>
      have hstatement (cursor : Cursor) :
          Descent rules 0 .statement cursor (statement rules 0 cursor) := by
        rw [statement]
        exact .exhausted _ _
      have hclimbing (minimum : Nat) (cursor : Cursor) :
          Descent rules 0 (.climbing minimum) cursor (climbing rules 0 minimum cursor) := by
        rw [climbing]
        exact .exhausted _ _
      cases call with
      | closedBody opening started => exact descent_closedBody hstatement opening started cursor
      | openBody => exact descent_openBody hstatement cursor
      | operators minimum left => exact descent_operators hclimbing minimum left cursor
      | statement => exact hstatement cursor
      | climbing minimum => exact hclimbing minimum cursor
      | _ =>
          simp only [Call.read, grouping, climbingStatement, climb, primary, chainStatement,
            chainExpression, chainOperand]
          exact .exhausted _ _
  | succ budget ih =>
      have hstatement (cursor : Cursor) :
          Descent rules (budget + 1) .statement cursor (statement rules (budget + 1) cursor) := by
        cases hgrammar : rules.grammar with
        | precedence =>
            rw [statement_of_precedence hgrammar]
            exact .statement_of_precedence hgrammar (ih .climbingStatement cursor)
        | rightRecursive =>
            rw [statement_of_rightRecursive hgrammar]
            exact .statement_of_rightRecursive hgrammar (ih .chainStatement cursor)
      have hclimbing (minimum : Nat) (cursor : Cursor) :
          Descent rules (budget + 1) (.climbing minimum) cursor
            (climbing rules (budget + 1) minimum cursor) := by
        rw [climbing_eq_bind]
        exact .climbing (ih .primary cursor) fun left after => ih (.climb minimum left) after
      cases call with
      | statement => exact hstatement cursor
      | grouping opening =>
          exact .grouping opening fun inside => ih (.closedBody opening false) inside
      | closedBody opening started => exact descent_closedBody hstatement opening started cursor
      | openBody => exact descent_openBody hstatement cursor
      | climbingStatement => exact descent_climbingStatement ih cursor
      | climbing minimum => exact hclimbing minimum cursor
      | climb minimum left => exact .climb (ih (.operators minimum left) cursor)
      | operators minimum left => exact descent_operators hclimbing minimum left cursor
      | primary => exact descent_primary ih cursor
      | chainStatement => exact descent_chainStatement ih cursor
      | chainExpression start => exact .chainExpression start fun after => ih .chainOperand after
      | chainOperand => exact descent_chainOperand ih cursor

theorem leavesBehind_of_read (call : Call α) {result : α}
    (hread : call.read rules budget cursor = .ok result after) :
    call.LeavesBehind cursor result after :=
  (descent rules budget call cursor).leavesBehind hread

theorem shortens_of_statement (rules : Rules) (budget : Nat) {place after : Cursor}
    {result : Measured Statement} (hread : statement rules budget place = .ok result after) :
    after.rest.length < place.rest.length :=
  Cursor.Further.length_rest_lt (leavesBehind_of_read .statement hread)

theorem shortens_of_climbing (rules : Rules) (budget minimum : Nat) {place after : Cursor}
    {result : Measured Operand} (hread : climbing rules budget minimum place = .ok result after) :
    after.rest.length < place.rest.length :=
  Cursor.Further.length_rest_lt (leavesBehind_of_read (.climbing minimum) hread)

/-- A program that is read leaves no token, and nothing counted. -/
theorem eq_end_of_program {tokens : List Token} {result : Program}
    (hread : program rules tokens = .ok result after) : after = ⟨[], 0⟩ := by
  obtain ⟨body, hbody, -⟩ := Outcome.map_eq_ok_iff.1 hread
  exact leavesBehind_of_read .openBody hbody

end Production

end Calculator
