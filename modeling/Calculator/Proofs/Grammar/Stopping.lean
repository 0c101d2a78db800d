import Calculator.Proofs.Grammar.Soundness

/-!
# Where reading stops

A cursor divides the tokens into those that have been passed and those to come.  No
production lets a number pass that has a second dot, and whatever a production blames
for its failure stands on one side of the cursor or the other: mostly it is the token
that comes next.  What has been passed is blamed for being too deep, and for being an
operand of several statements.  That the second kind of blame falls on a grouping with
an operator beside it takes some care, since an operand is read without regard to what
stands before it.
-/

namespace Calculator

/-! ### Cursors and problems -/

/-- The cursor stands behind the tokens that have been passed.  A number among them
has one dot at most. -/
structure Cursor.Past (tokens passed : List Token) (cursor : Cursor) : Prop where
  split : passed ++ cursor.rest = tokens
  numbers : ∀ token ∈ passed, token.kind = .number → token.dots ≤ 1

namespace Cursor.Past

variable {tokens passed : List Token} {cursor : Cursor} {token : Token}

theorem start (tokens : List Token) : (⟨tokens, 0⟩ : Cursor).Past tokens [] :=
  ⟨rfl, fun _ hmem => absurd hmem List.not_mem_nil⟩

/-- The cursor moves over one token. -/
theorem pass (hpast : (cursor.before token).Past tokens passed)
    (hdots : token.kind = .number → token.dots ≤ 1) : cursor.Past tokens (passed ++ [token]) := by
  refine ⟨?_, ?_⟩
  · rw [← hpast.split, List.append_assoc]
    rfl
  · intro other hmem
    rcases List.mem_append.1 hmem with hmem | hmem
    · exact hpast.numbers other hmem
    · rw [List.mem_singleton.1 hmem]
      exact hdots

/-- The cursor moves over one token that is no number. -/
theorem pass_of_ne_number (hpast : (cursor.before token).Past tokens passed)
    (hkind : token.kind ≠ .number) : cursor.Past tokens (passed ++ [token]) :=
  hpast.pass fun hnumber => absurd hnumber hkind

/-- How deeply the cursor is nested does not matter. -/
theorem nested (hpast : cursor.Past tokens passed) (nesting : Nat) :
    ({ cursor with nesting } : Cursor).Past tokens passed :=
  ⟨hpast.split, hpast.numbers⟩

/-- What has been passed is known by the tokens that are still to come. -/
theorem passed_eq {after : Cursor} {later used : List Token} (hpast : cursor.Past tokens passed)
    (hlater : after.Past tokens later) (hused : cursor.rest = used ++ after.rest) :
    later = passed ++ used := by
  have hsplit : later ++ after.rest = passed ++ used ++ after.rest := by
    rw [hlater.split, ← hpast.split, hused, List.append_assoc]
  exact List.append_cancel_right hsplit

end Cursor.Past

/-- The last of the tokens spells an operator. -/
def EndsInOperator (tokens : List Token) : Prop :=
  ∃ last ∈ tokens.getLast?, last.operator?.isSome = true

/-- The tokens in the middle spell a grouping of several statements, and an operator
stands right before it or right behind it, of which it is an operand. -/
structure CrowdedOperand (before grouping behind : List Token) : Prop where
  spelled : ∃ body : List Statement, 1 < body.length ∧
    grouping.map Token.lexeme = (Statement.grouping body).lexemes
  joined : EndsInOperator before ∨ ∃ next ∈ behind.head?, next.operator?.isSome = true

/-- What a problem blames, by the tokens on the two sides of the cursor. -/
inductive Problem.MetAt (passed rest : List Token) : Problem → Prop where
  | ambiguous {literal : Token} (hnext : rest.head? = some literal)
      (hkind : literal.kind = .number) (hdots : 1 < literal.dots) :
      MetAt passed rest (.ambiguous literal)
  | unexpected (expected : Expectation) {found : Token} (hnext : rest.head? = some found) :
      MetAt passed rest (.unexpected expected found)
  | crowded {before inner : List Token} {opening : Token}
      (hpassed : passed = before ++ opening :: inner)
      (hcrowded : CrowdedOperand before (opening :: inner) rest) :
      MetAt passed rest (.unexpected .singleExpression opening)
  | ended (expected : Expectation) (hend : rest = []) : MetAt passed rest (.ended expected)
  | tooDeep {token : Token} (hblamed : token ∈ passed ∨ rest.head? = some token) :
      MetAt passed rest (.tooDeep token)

theorem Problem.metAt_missing (passed rest : List Token) (expected : Expectation) :
    (Problem.missing expected rest).MetAt passed rest := by
  cases rest with
  | nil => exact .ended expected rfl
  | cons token tail => exact .unexpected expected rfl

/-! ### Outcomes -/

/-- From a place behind the passed tokens, reading has ended at a place further on, or
at the same one, with a problem that is met there if it has failed. -/
inductive Outcome.StopsIn (tokens passed : List Token) {α : Type} : Outcome α → Prop where
  | ok {value : α} {after : Cursor} (more : List Token)
      (hpast : after.Past tokens (passed ++ more)) : StopsIn tokens passed (.ok value after)
  | failed {problem : Problem} {stop : Cursor} (more : List Token)
      (hpast : stop.Past tokens (passed ++ more))
      (hmet : problem.MetAt (passed ++ more) stop.rest) :
      StopsIn tokens passed (.failed problem stop)
  | exhausted : StopsIn tokens passed .exhausted

namespace Outcome.StopsIn

variable {tokens passed : List Token} {α β : Type} {outcome : Outcome α} {cursor : Cursor}
  {problem : Problem} {value : α}

theorem ok_here (hpast : cursor.Past tokens passed) :
    (Outcome.ok value cursor).StopsIn tokens passed :=
  .ok [] (by rwa [List.append_nil])

theorem failed_here (hpast : cursor.Past tokens passed) (hmet : problem.MetAt passed cursor.rest) :
    (Outcome.failed problem cursor : Outcome α).StopsIn tokens passed :=
  .failed [] (by rwa [List.append_nil]) (by rwa [List.append_nil])

/-- A reading that started further on may be taken to have started earlier. -/
theorem of_append {more : List Token} (hstops : outcome.StopsIn tokens (passed ++ more)) :
    outcome.StopsIn tokens passed := by
  cases hstops with
  | ok others hpast =>
      rw [List.append_assoc] at hpast
      exact .ok _ hpast
  | failed others hpast hmet =>
      rw [List.append_assoc] at hpast hmet
      exact .failed _ hpast hmet
  | exhausted => exact .exhausted

theorem bind {next : α → Cursor → Outcome β} (hstops : outcome.StopsIn tokens passed)
    (hnext : ∀ value after more, outcome = .ok value after →
      after.Past tokens (passed ++ more) → (next value after).StopsIn tokens (passed ++ more)) :
    (outcome.bind next).StopsIn tokens passed := by
  cases hstops with
  | ok more hpast => exact (hnext _ _ more rfl hpast).of_append
  | failed more hpast hmet => exact .failed more hpast hmet
  | exhausted => exact .exhausted

theorem map (transform : α → β) (hstops : outcome.StopsIn tokens passed) :
    (outcome.map transform).StopsIn tokens passed := by
  apply hstops.bind
  intro value after more _ hpast
  exact ok_here hpast

end Outcome.StopsIn

namespace Production

open Outcome (StopsIn)

variable {tokens passed : List Token} {rules : Rules} {budget : Nat} {α : Type} {cursor : Cursor}
  {token : Token}

/-! ### Steps -/

theorem stopsIn_nest {limit : Nat} (hpast : cursor.Past tokens passed)
    (hblamed : token ∈ passed ∨ cursor.rest.head? = some token) :
    (cursor.nest limit token).StopsIn tokens passed := by
  rw [Cursor.nest]
  split
  · exact StopsIn.failed_here (hpast.nested _) (.tooDeep hblamed)
  · exact StopsIn.ok_here (hpast.nested _)

theorem stopsIn_within {α : Type} {limit : Nat} {measured : Measured α}
    (hpast : cursor.Past tokens passed) (hmem : token ∈ passed) :
    (measured.within limit token cursor).StopsIn tokens passed := by
  rw [Measured.within]
  split
  · exact StopsIn.failed_here hpast (.tooDeep (.inl hmem))
  · exact StopsIn.ok_here hpast

/-- A number passes if it has no second dot. -/
theorem stopsIn_number (hpast : (cursor.before token).Past tokens passed)
    (hkind : token.kind = .number) : (number token cursor).StopsIn tokens passed := by
  rw [number]
  split
  · rename_i hdots
    exact StopsIn.failed_here hpast (.ambiguous rfl hkind hdots)
  · rename_i hdots
    exact .ok [token] (hpast.pass fun _ => Nat.le_of_not_lt hdots)

theorem stopsIn_operator (hpast : cursor.Past tokens passed) :
    (Production.operator cursor).StopsIn tokens passed := by
  rw [Production.operator]
  split
  · rename_i operator hspelled
    obtain ⟨next, hnext, hoperator⟩ := Option.bind_eq_some_iff.1 hspelled
    obtain ⟨tail, hrest⟩ := List.head?_eq_some_iff.1 hnext
    have hkind := Token.kind_ne_number_of_operator? hoperator
    rw [hrest, List.tail_cons]
    exact .ok [next] ((Cursor.before_eq_of_rest_eq hrest ▸ hpast).pass_of_ne_number hkind)
  · exact StopsIn.failed_here hpast (Problem.metAt_missing _ _ _)

theorem stopsIn_finish {operand : Measured Operand} (hpast : cursor.Past tokens passed) :
    (finish operand cursor).StopsIn tokens passed := by
  rw [finish]
  split
  · exact StopsIn.ok_here hpast
  · exact StopsIn.failed_here hpast (Problem.metAt_missing _ _ _)

/-- A grouping that has been read and passed is blamed as an operand only for holding
several statements. -/
theorem stopsIn_groupingOperand {opening : Token} {later : List Token}
    {body : Measured (List Statement)} {after : Cursor}
    (hpast : (cursor.before opening).Past tokens passed)
    (hread : Reads rules (.nested (.grouping body.value)) body.depth (cursor.before opening) after)
    (hafter : after.Past tokens later)
    (hjoined : EndsInOperator passed ∨
      ∃ next ∈ after.rest.head?, next.operator?.isSome = true) :
    (groupingOperand opening body after).StopsIn tokens later := by
  obtain ⟨used, hused, hlexemes⟩ := hread.consumes.tokens
  rw [groupingOperand]
  split
  · exact StopsIn.ok_here hafter
  · rename_i hlength
    have hseveral : 1 < body.value.length := by
      have hnonempty : body.value ≠ [] := hread.canonical.1
      have hpositive := List.length_pos_iff.2 hnonempty
      omega
    cases used with
    | nil => simp [Operand.lexemes, Statement.lexemes] at hlexemes
    | cons first inner =>
        obtain rfl : opening = first := (List.cons.inj hused).1
        apply StopsIn.failed_here hafter
        exact .crowded (hpast.passed_eq hafter hused)
          ⟨⟨body.value, hseveral, hlexemes⟩, hjoined⟩

theorem stopsIn_enclosed {limit : Nat} {opening : Token}
    {body : Cursor → Outcome (Measured (List Statement))}
    (hpast : cursor.Past tokens passed) (hmem : opening ∈ passed)
    (hbody : ∀ {passed inside}, inside.Past tokens passed →
      (body inside).StopsIn tokens passed) :
    (enclosed limit opening body cursor).StopsIn tokens passed := by
  apply (stopsIn_nest hpast (.inl hmem)).bind
  intro _ inside more _ hinside
  apply (hbody hinside).bind
  intro body after others _ hafter
  apply stopsIn_within (hafter.nested _)
  exact List.mem_append_left _ (List.mem_append_left _ hmem)

theorem stopsIn_linked {limit : Nat} {start : Token}
    {operand : Cursor → Outcome (Measured Operand)}
    (hpast : (cursor.before start).Past tokens passed) (hkind : start.kind = .number)
    (hoperand : ∀ {passed place}, place.Past tokens passed →
      (operand place).StopsIn tokens passed) :
    (linked limit start operand cursor).StopsIn tokens passed := by
  apply (stopsIn_nest hpast (.inr rfl)).bind
  intro _ inside more hnest hinside
  obtain ⟨-, rfl⟩ := Cursor.nest_eq_ok_iff.1 hnest
  apply (stopsIn_number hinside hkind).bind
  intro left place others hnumber hplace
  obtain ⟨-, -, rfl⟩ := number_eq_ok_iff.1 hnumber
  have hstart : start ∈ passed ++ more ++ others := by
    rw [hinside.passed_eq hplace (show _ = [start] ++ cursor.rest from rfl)]
    simp
  apply (stopsIn_operator hplace).bind
  intro operator behind next _ hbehind
  apply (hoperand hbehind).bind
  intro right after last _ hafter
  apply stopsIn_within (hafter.nested _)
  exact List.mem_append_left _ (List.mem_append_left _ hstart)

/-! ### Call by call -/

/-- If a grouping comes next, it is the operand of an operator that has been passed. -/
def OperandNext (passed : List Token) (cursor : Cursor) : Prop :=
  EndsInOperator passed ∨ ∀ next ∈ cursor.rest.head?, next.isLeftParen = false

/-- A call is made behind what has been passed.  The parenthesis that opens a grouping is
among that, and the number that starts an expression comes next. -/
def Call.MadeBehind (tokens passed : List Token) : Call α → Cursor → Prop
  | grouping opening, cursor => cursor.Past tokens passed ∧ opening ∈ passed
  | climbing _, cursor | primary, cursor => cursor.Past tokens passed ∧ OperandNext passed cursor
  | chainExpression start, cursor => (cursor.before start).Past tokens passed ∧ start.kind = .number
  | statement, cursor | closedBody _ _, cursor | openBody, cursor | climbingStatement, cursor
  | climb _ _, cursor | operators _ _, cursor | chainStatement, cursor
  | chainOperand, cursor => cursor.Past tokens passed

theorem Call.Misses.past {call : Call α} {expected : Expectation}
    (hmisses : call.Misses budget cursor expected) (hmade : call.MadeBehind tokens passed cursor) :
    cursor.Past tokens passed := by
  cases hmisses with
  | primary => exact hmade.1
  | _ => exact hmade

/-- What is inside of a grouping stands behind its parenthesis. -/
theorem madeBehind_opening (hpast : (cursor.before token).Past tokens passed)
    (hopening : token.isLeftParen = true) :
    Call.MadeBehind tokens (passed ++ [token]) (.grouping token) cursor :=
  ⟨hpast.pass_of_ne_number (Token.kind_ne_number_of_isLeftParen hopening), by simp⟩

theorem operandNext_of_other (hother : token.isLeftParen = false) :
    OperandNext passed (cursor.before token) := by
  right
  rintro _ ⟨⟩
  exact hother

theorem Descent.stopsIn {call : Call α} {outcome : Outcome α}
    (hdescent : Descent rules budget call cursor outcome) :
    ∀ {passed}, call.MadeBehind tokens passed cursor → outcome.StopsIn tokens passed := by
  induction hdescent with
  | exhausted => exact fun _ => .exhausted
  | missing hmisses =>
      intro passed hmade
      exact StopsIn.failed_here (hmisses.past hmade) (Problem.metAt_missing _ _ _)
  | statement_of_precedence hgrammar hcall ih => exact ih
  | statement_of_rightRecursive hgrammar hcall ih => exact ih
  | grouping opening hbody ih =>
      intro passed hmade
      exact stopsIn_enclosed hmade.1 hmade.2 fun hinside => ih _ hinside
  | @closedBody_of_closing _ token _ hclosing budget =>
      intro passed hpast
      have hkind := Token.kind_ne_number_of_isRightParen hclosing
      exact .ok [token] (Cursor.Past.pass_of_ne_number hpast hkind)
  | closedBody_of_open opening started hopen hfirst hothers ihFirst ihOthers =>
      intro passed hpast
      apply StopsIn.bind (ihFirst hpast)
      intro first after more hvalue hafter
      exact StopsIn.map _ (ihOthers _ _ hvalue hafter)
  | openBody_of_ended hend budget => exact StopsIn.ok_here
  | openBody_before hfirst hothers ihFirst ihOthers =>
      intro passed hpast
      apply StopsIn.bind (ihFirst hpast)
      intro first after more hvalue hafter
      exact StopsIn.map _ (ihOthers _ _ hvalue hafter)
  | climbingStatement_of_opening hopening hbody hclimb ihBody ihClimb =>
      intro passed hpast
      apply StopsIn.of_append
      apply StopsIn.bind (ihBody (madeBehind_opening hpast hopening))
      intro body after more hvalue hafter
      rw [followed]
      split
      · exact StopsIn.ok_here hafter
      · rename_i operator hspelled
        have hjoined : ∃ next ∈ after.rest.head?, next.operator?.isSome = true := by
          obtain ⟨next, hhead, hoperator⟩ := Option.bind_eq_some_iff.1 hspelled
          exact ⟨next, hhead, by rw [hoperator]; rfl⟩
        have hgrouping := hbody.returns hvalue hopening
        apply (stopsIn_groupingOperand hpast hgrouping hafter (.inr hjoined)).bind
        intro left place others _ hplace
        apply StopsIn.bind (ihClimb left place hplace)
        intro operand stop last _ hstop
        exact stopsIn_finish hstop
  | climbingStatement_of_other hother hclimbing ih =>
      intro passed hpast
      apply StopsIn.bind (ih ⟨hpast, operandNext_of_other hother⟩)
      intro operand stop more _ hstop
      exact stopsIn_finish hstop
  | climbing hprimary hclimb ihPrimary ihClimb =>
      intro passed hmade
      apply StopsIn.bind (ihPrimary hmade)
      intro left after more _ hafter
      exact ihClimb left after hafter
  | climb hoperators ih => exact ih
  | operators_of_done => exact StopsIn.ok_here
  | @operators_of_turn _ _ _ token _ _ _ _ hoperator hminimum hright hturned ihRight ihTurned =>
      -- What is asked for as an operand stands behind an operator.
      intro passed hpast
      have hkind := Token.kind_ne_number_of_operator? hoperator
      have hends : EndsInOperator (passed ++ [token]) := ⟨token, by simp, by rw [hoperator]; rfl⟩
      apply StopsIn.of_append
      apply StopsIn.bind (ihRight ⟨Cursor.Past.pass_of_ne_number hpast hkind, .inl hends⟩)
      intro right after more hvalue hafter
      apply (stopsIn_within hafter (by simp)).bind
      intro combined stop others hwithin hstop
      obtain ⟨-, -, rfl⟩ := Measured.within_eq_ok_iff.1 hwithin
      exact ihTurned _ _ _ hvalue hstop
  | primary_of_number behind hkind budget =>
      exact fun hmade => (stopsIn_number hmade.1 hkind).map _
  | @primary_of_opening _ token _ _ hopening hbody ih =>
      intro passed hmade
      obtain ⟨hpast, hnext⟩ := hmade
      apply StopsIn.of_append
      apply StopsIn.bind (ih (madeBehind_opening hpast hopening))
      intro body after more hvalue hafter
      apply stopsIn_groupingOperand hpast (hbody.returns hvalue hopening) hafter
      -- The grouping comes next, so an operator has been passed.
      rcases hnext with hends | hother
      · exact .inl hends
      · exact absurd hopening (Bool.eq_false_iff.1 (hother token rfl))
  | chainStatement_of_number hkind hexpression ih => exact fun hpast => ih ⟨hpast, hkind⟩
  | chainStatement_of_opening hopening hbody ih =>
      intro passed hpast
      exact (StopsIn.of_append (ih (madeBehind_opening hpast hopening))).map _
  | chainExpression start hoperand ih =>
      intro passed hmade
      exact stopsIn_linked hmade.1 hmade.2 fun hplace => ih _ hplace
  | chainOperand_of_boundary hkind hboundary budget =>
      exact fun hpast => (stopsIn_number hpast hkind).map _
  | chainOperand_of_operator hkind hgoesOn hexpression ih =>
      exact fun hpast => StopsIn.map _ (ih ⟨hpast, hkind⟩)
  | chainOperand_of_opening hopening hbody ih =>
      intro passed hpast
      exact (StopsIn.of_append (ih (madeBehind_opening hpast hopening))).map _

theorem stopsIn_program (rules : Rules) (tokens : List Token) :
    (program rules tokens).StopsIn tokens [] := by
  apply StopsIn.map
  exact (descent rules (budgetFor rules.limit) .openBody ⟨tokens, 0⟩).stopsIn
    (Cursor.Past.start tokens)

end Production

end Calculator
