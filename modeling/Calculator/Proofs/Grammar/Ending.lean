import Calculator.Proofs.Grammar.Completion
import Calculator.Proofs.Grammar.Soundness

/-!
# Where the tokens end

A reading that fails for want of a token has come to the end of the tokens.  What
it has read by then is the start of a canonical tree, and the tokens behind that
start are all of them used.  The one thing that can stand in the way of completing
the tree is an operand that is crowded, under precedence.  A call that came to the end
did so in the last of the calls it made, so this is shown by induction on the descent.
-/

namespace Calculator

/-- The tokens that are left, as lexemes. -/
def Cursor.lexemes (cursor : Cursor) : List Lexeme :=
  cursor.rest.map Token.lexeme

theorem Cursor.lexemes_of_rest_eq_nil {cursor : Cursor} (hend : cursor.rest = []) :
    cursor.lexemes = [] := by
  rw [lexemes, hend, List.map_nil]

theorem Cursor.lexemes_of_rest_eq_cons {cursor : Cursor} {token : Token} {tail : List Token}
    (hrest : cursor.rest = token :: tail) :
    cursor.lexemes = token.lexeme :: ({ cursor with rest := tail } : Cursor).lexemes := by
  rw [lexemes, hrest, List.map_cons]
  rfl

theorem Consumes.lexemes_eq {lexemes : List Lexeme} {cursor after : Cursor}
    (hconsumes : Consumes lexemes cursor after) : cursor.lexemes = lexemes ++ after.lexemes := by
  obtain ⟨⟨used, hrest, hused⟩, -⟩ := hconsumes
  rw [Cursor.lexemes, hrest, List.map_append, hused]
  rfl

/-! ### Outcomes -/

namespace Outcome

variable {α β : Type}

/-- Reading failed because no token was left. -/
def Ended (outcome : Outcome α) : Prop :=
  ∃ expected stop, outcome = .failed (.ended expected) stop

theorem not_ended_ok (value : α) (cursor : Cursor) : ¬ (ok value cursor).Ended := by
  simp [Ended]

theorem not_ended_exhausted : ¬ (exhausted : Outcome α).Ended := by
  simp [Ended]

theorem not_ended_unexpected (expected : Expectation) (found : Token) (cursor : Cursor) :
    ¬ (failed (.unexpected expected found) cursor : Outcome α).Ended := by
  simp [Ended]

/-- A sequence that ended did so in one of its parts. -/
theorem Ended.of_bind {outcome : Outcome α} {next : α → Cursor → Outcome β}
    (hended : (outcome.bind next).Ended) :
    outcome.Ended ∨ ∃ value after, outcome = .ok value after ∧ (next value after).Ended := by
  cases outcome with
  | ok value after => exact .inr ⟨value, after, rfl, hended⟩
  | failed problem stop =>
      obtain ⟨expected, place, hfailed⟩ := hended
      obtain ⟨rfl, rfl⟩ : _ ∧ _ := by simpa using hfailed
      exact .inl ⟨expected, stop, rfl⟩
  | exhausted => exact absurd hended not_ended_exhausted

theorem Ended.of_map {outcome : Outcome α} {transform : α → β}
    (hended : (outcome.map transform).Ended) : outcome.Ended := by
  rcases hended.of_bind with hfirst | ⟨value, after, -, hlast⟩
  · exact hfirst
  · exact absurd hlast (not_ended_ok _ _)

theorem not_ended_within {limit : Nat} {token : Token} {measured : Measured α} {cursor : Cursor} :
    ¬ (measured.within limit token cursor).Ended := by
  rw [Measured.within]
  split <;> simp [Ended]

/-- What is nested in ended if the whole did. -/
theorem Ended.of_nest {limit : Nat} {token : Token} {cursor : Cursor}
    {next : Unit → Cursor → Outcome α} (hended : ((cursor.nest limit token).bind next).Ended) :
    (next () { cursor with nesting := cursor.nesting + 1 }).Ended := by
  rcases hended.of_bind with hnest | ⟨_, inside, hnest, hnext⟩
  · simp only [Cursor.nest] at hnest
    split at hnest <;> simp [Ended] at hnest
  · obtain ⟨-, rfl⟩ := Cursor.nest_eq_ok_iff.1 hnest
    exact hnext

end Outcome

namespace Production

variable {rules : Rules} {budget : Nat} {α : Type} {cursor after : Cursor} {token : Token}

/-! ### Starts of trees -/

/-- An operand is crowded, which only matters under precedence. -/
def Spoiled (grammar : Grammar) (lexemes : List Lexeme) : Prop :=
  grammar = .precedence ∧ Crowds lexemes

/-- The lexemes start a statement, or an operand is crowded. -/
def StatementCut (grammar : Grammar) (lexemes : List Lexeme) : Prop :=
  (∃ statement more, Completes grammar (.nested statement) lexemes more) ∨
    Spoiled grammar lexemes

/-- The lexemes start a grouping, which under precedence is crowded if it should be
an operand and can no longer be one. -/
def GroupingCut (grammar : Grammar) (lexemes : List Lexeme) : Prop :=
  (∃ body more, Completes grammar (.nested (.grouping body)) lexemes more ∧
    (grammar = .precedence → body.length = 1 ∨ CrowdsAsOperand lexemes)) ∨
    Spoiled grammar lexemes

/-- The operand can stand to the right of an operator of less than the minimum
precedence. -/
structure Fits (minimum : Nat) (operand : Operand) : Prop where
  binds : ∀ inner ∈ operand.operator?, minimum ≤ inner.precedence
  single : operand.Single

/-- The lexemes start an operand of a climb. -/
def OperandStarted (grammar : Grammar) (minimum : Nat) (lexemes : List Lexeme) : Prop :=
  ∃ operand more, Completes grammar operand lexemes more ∧ Fits minimum operand

theorem Spoiled.of_consumes {lexemes : List Lexeme} {after : Cursor}
    (hconsumes : Consumes lexemes cursor after) (hspoiled : Spoiled rules.grammar after.lexemes) :
    Spoiled rules.grammar cursor.lexemes := by
  rw [hconsumes.lexemes_eq]
  exact ⟨hspoiled.1, hspoiled.2.append_left lexemes⟩

theorem OperandStarted.statementCut {minimum : Nat} {lexemes : List Lexeme}
    (hstarted : OperandStarted rules.grammar minimum lexemes) :
    StatementCut rules.grammar lexemes := by
  obtain ⟨operand, more, hcompletes, -⟩ := hstarted
  exact .inl hcompletes.exists_statement

theorem GroupingCut.statementCut {lexemes : List Lexeme}
    (hcut : GroupingCut rules.grammar lexemes) : StatementCut rules.grammar lexemes := by
  rcases hcut with ⟨body, more, hcompletes, -⟩ | hspoiled
  · exact .inl ⟨.grouping body, more, hcompletes⟩
  · exact .inr hspoiled

theorem statementCut_nil (grammar : Grammar) : StatementCut grammar [] :=
  .inl (Completes.missing grammar).exists_statement

/-! ### What was read before the end -/

/-- Behind a statement that was read, a completion of the others completes the body. -/
theorem completesEach_cons {first : Statement} {depth : Nat} {after : Cursor}
    {others : List Statement} {more : List Lexeme}
    (hreads : Reads rules (.nested first) depth cursor after)
    (hothers : CompletesEach rules.grammar others after.lexemes more) :
    CompletesEach rules.grammar (first :: others) cursor.lexemes more := by
  rw [hreads.consumes.lexemes_eq]
  exact hothers.cons hreads.canonical

theorem secondBegun_of_rest_eq_cons {first : Statement} {depth : Nat} {after : Cursor}
    {next : Token} {tail : List Token} {others : List Statement} {more : List Lexeme}
    (hreads : Reads rules (.nested first) depth cursor after) (hrest : after.rest = next :: tail)
    (hothers : CompletesEach rules.grammar others after.lexemes more) :
    SecondBegun rules.grammar cursor.lexemes := by
  have hlexemes : cursor.lexemes = first.lexemes ++ after.lexemes := hreads.consumes.lexemes_eq
  rw [Cursor.lexemes_of_rest_eq_cons hrest] at hothers hlexemes
  exact ⟨first, next.lexeme, _, hreads.canonical, hothers.starts, hlexemes⟩

/-- A turn of a climb in which the tokens end: what completes the right operand
completes the expression, and what crowds it crowds the whole. -/
theorem started_of_right (hprecedence : rules.grammar = .precedence) {minimum : Nat}
    {left : Measured Operand} {operator : Operator} {token : Token} {start : Cursor}
    (hleft : Climbing rules minimum left start (cursor.before token))
    (hoperator : token.operator? = some operator) (hminimum : minimum ≤ operator.precedence)
    (hright : OperandStarted rules.grammar (operator.precedence + 1) cursor.lexemes ∨
      CrowdsAsOperand cursor.lexemes) :
    OperandStarted rules.grammar minimum start.lexemes ∨ Spoiled rules.grammar start.lexemes := by
  have hlexemes : start.lexemes =
      left.value.lexemes ++ Lexeme.operator operator :: cursor.lexemes := by
    rw [hleft.consumes.lexemes_eq, ← Token.lexeme_eq_operator_iff.2 hoperator]
    rfl
  rw [hlexemes]
  rcases hright with ⟨right, more, hcompletes, hfits⟩ | hcrowds
  · have hjoins : rules.grammar.Joins operator left.value right := by
      rw [hprecedence]
      refine ⟨?_, hfits.binds, hleft.single, hfits.single⟩
      intro inner hinner
      exact hleft.extensible inner hinner operator hoperator
    refine .inl ⟨_, more, hcompletes.expression hleft.canonical hjoins, ?_, ?_⟩
    · intro inner hinner
      obtain rfl : operator = inner := by simpa [Operand.operator?] using hinner
      exact hminimum
    · simp [Operand.Single, Operand.body?]
  · exact .inr ⟨hprecedence, (hcrowds.cons_operator operator).append_left _⟩

/-- Where an operand is asked for a number may follow. -/
theorem operandStarted_nil (grammar : Grammar) (minimum : Nat) :
    OperandStarted grammar minimum [] := by
  refine ⟨.number "1", _, Completes.missing _, ?_, ?_⟩
  · simp [Operand.operator?]
  · simp [Operand.Single, Operand.body?]

/-! ### Steps -/

theorem not_ended_number : ¬ (number token cursor).Ended := by
  rw [number]
  split <;> simp [Outcome.Ended]

theorem not_ended_groupingOperand {body : Measured (List Statement)} :
    ¬ (groupingOperand token body cursor).Ended := by
  rw [groupingOperand]
  split <;> simp [Outcome.Ended]

theorem eq_nil_of_missing {expected : Expectation} {rest : List Token}
    (hended : (.failed (.missing expected rest) cursor : Outcome α).Ended) : rest = [] := by
  cases rest with
  | nil => rfl
  | cons token tail => exact absurd hended (Outcome.not_ended_unexpected _ _ _)

/-- An operand that was read whole may still be a number that stands alone at the
end. -/
theorem statementCut_of_finish {outcome : Outcome (Measured Operand)}
    (hoperand : ∀ {operand after}, outcome = .ok operand after →
      Reads rules operand.value operand.depth cursor after)
    (hcut : outcome.Ended → StatementCut rules.grammar cursor.lexemes)
    (hended : (outcome.bind finish).Ended) : StatementCut rules.grammar cursor.lexemes := by
  rcases hended.of_bind with houtcome | ⟨operand, after, houtcome, hfinish⟩
  · exact hcut houtcome
  · rw [finish] at hfinish
    split at hfinish
    · exact absurd hfinish (Outcome.not_ended_ok _ _)
    · have hreads := hoperand houtcome
      rw [hreads.consumes.lexemes_eq,
        Cursor.lexemes_of_rest_eq_nil (eq_nil_of_missing hfinish), List.append_nil]
      exact .inl (Completes.of_canonical hreads.canonical).exists_statement

theorem ended_of_enclosed {limit : Nat} {body : Cursor → Outcome (Measured (List Statement))}
    (hended : (enclosed limit token body cursor).Ended) :
    (body { cursor with nesting := cursor.nesting + 1 }).Ended := by
  rcases hended.of_nest.of_bind with hbody | ⟨body, after, -, hwithin⟩
  · exact hbody
  · exact absurd hwithin Outcome.not_ended_within

theorem ended_of_followed {climbed : Measured Operand → Cursor → Outcome (Measured Operand)}
    {body : Measured (List Statement)} (hended : (followed token climbed body cursor).Ended) :
    body.value.length = 1 ∧
      ((climbed ⟨.nested (.grouping body.value), body.depth⟩ cursor).bind finish).Ended := by
  rw [followed] at hended
  split at hended
  · exact absurd hended (Outcome.not_ended_ok _ _)
  · rcases hended.of_bind with hoperand | ⟨left, middle, hoperand, hclimb⟩
    · exact absurd hoperand not_ended_groupingOperand
    · obtain ⟨hlength, rfl, rfl⟩ := groupingOperand_eq_ok_iff.1 hoperand
      exact ⟨hlength, hclimb⟩

/-- A link of a chain came to the end behind its number, or in its operand. -/
theorem completes_of_linked (hright : rules.grammar = .rightRecursive) {start : Token}
    (hkind : start.kind = .number) {operand : Cursor → Outcome (Measured Operand)}
    (hoperand : ∀ {place}, (operand place).Ended →
      ∃ operand more, Completes rules.grammar operand place.lexemes more)
    (hended : (linked rules.limit start operand cursor).Ended) :
    ∃ statement more,
      Completes rules.grammar (.nested statement) (cursor.before start).lexemes more := by
  rcases hended.of_nest.of_bind with hnumber | ⟨literal, place, hnumber, hparts⟩
  · exact absurd hnumber not_ended_number
  · obtain ⟨hdots, rfl, rfl⟩ := number_eq_ok_iff.1 hnumber
    have hleft := reads_number rules cursor hkind hdots
    rw [hleft.consumes.lexemes_eq]
    rcases hparts.of_bind with hoperator | ⟨operator, place, hoperator, hparts⟩
    · rw [Production.operator] at hoperator
      split at hoperator
      · exact absurd hoperator (Outcome.not_ended_ok _ _)
      · have hend : cursor.rest = [] := eq_nil_of_missing hoperator
        rw [Cursor.lexemes_of_rest_eq_nil hend, List.append_nil]
        exact (Completes.of_canonical hleft.canonical).exists_statement
    · rcases hparts.of_bind with hended | ⟨right, after, -, hwithin⟩
      · obtain ⟨right, more, hcompletes⟩ := hoperand hended
        have hjoins : rules.grammar.Joins operator (.number start.text) right := by
          rw [hright]
          exact ⟨start.text, rfl⟩
        have hlexemes : cursor.lexemes = [Lexeme.operator operator] ++ place.lexemes :=
          (consumes_of_operator hoperator).lexemes_eq
        rw [hlexemes]
        exact ⟨_, more, hcompletes.expression hleft.canonical hjoins⟩
      · exact absurd hwithin Outcome.not_ended_within

/-! ### Call by call -/

/-- The lexemes start an operand under precedence, or one in them is crowded, which may be
the operand itself if it is a grouping. -/
def OperandCut (grammar : Grammar) (minimum : Nat) (lexemes : List Lexeme) : Prop :=
  OperandStarted grammar minimum lexemes ∨ Spoiled grammar lexemes ∨
    lexemes.head? = some Lexeme.leftParen ∧ CrowdsAsOperand lexemes

/-- The lexemes start the statements of a body.  If a second statement has begun, that can
be seen from them. -/
def BodyCut (grammar : Grammar) (lexemes : List Lexeme) : Prop :=
  (∃ body more, CompletesEach grammar body lexemes more ∧ body ≠ [] ∧
    (body.length = 1 ∨ SecondBegun grammar lexemes)) ∨ Spoiled grammar lexemes

/-- What a call has read if it came to the end of the tokens. -/
def Call.Cut (rules : Rules) : Call α → Cursor → Prop
  | statement, cursor => StatementCut rules.grammar cursor.lexemes
  | grouping opening, cursor => opening.isLeftParen = true →
      GroupingCut rules.grammar (Lexeme.leftParen :: cursor.lexemes)
  | closedBody _ _, cursor => BodyCut rules.grammar cursor.lexemes
  | openBody, cursor =>
      (∃ body more, CompletesEach rules.grammar body cursor.lexemes more) ∨
        Spoiled rules.grammar cursor.lexemes
  | climbingStatement, cursor => rules.grammar = .precedence →
      StatementCut rules.grammar cursor.lexemes
  | climbing minimum, cursor => rules.grammar = .precedence →
      OperandCut rules.grammar minimum cursor.lexemes
  | climb minimum left, cursor | operators minimum left, cursor =>
      rules.grammar = .precedence → ∀ start, Climbing rules minimum left start cursor →
        OperandStarted rules.grammar minimum start.lexemes ∨ Spoiled rules.grammar start.lexemes
  | primary, cursor => rules.grammar = .precedence → ∀ minimum,
      OperandCut rules.grammar minimum cursor.lexemes
  | chainStatement, cursor => rules.grammar = .rightRecursive →
      StatementCut rules.grammar cursor.lexemes
  | chainExpression start, cursor => rules.grammar = .rightRecursive → start.kind = .number →
      ∃ statement more,
        Completes rules.grammar (.nested statement) (cursor.before start).lexemes more
  | chainOperand, cursor => rules.grammar = .rightRecursive →
      ∃ operand more, Completes rules.grammar operand cursor.lexemes more

theorem OperandCut.crowdsAsOperand {minimum : Nat} {lexemes : List Lexeme}
    (hcut : OperandCut rules.grammar minimum lexemes) :
    OperandStarted rules.grammar minimum lexemes ∨ CrowdsAsOperand lexemes := by
  rcases hcut with hstarted | hspoiled | ⟨-, hcrowds⟩
  · exact .inl hstarted
  · exact .inr hspoiled.2.crowdsAsOperand
  · exact .inr hcrowds

/-- Under precedence a grouping that was started is an operand, unless it is crowded. -/
theorem GroupingCut.operandCut (hprecedence : rules.grammar = .precedence) (minimum : Nat)
    {lexemes : List Lexeme} (hcut : GroupingCut rules.grammar (Lexeme.leftParen :: lexemes)) :
    OperandCut rules.grammar minimum (Lexeme.leftParen :: lexemes) := by
  rcases hcut with ⟨body, more, hcompletes, hlength⟩ | hspoiled
  · rcases hlength hprecedence with hsingle | hcrowds
    · refine .inl ⟨_, more, hcompletes, ?_, ?_⟩
      · simp [Operand.operator?]
      · simpa [Operand.Single, Operand.body?] using hsingle
    · exact .inr (.inr ⟨rfl, hcrowds⟩)
  · exact .inr (.inl hspoiled)

/-- In a chain every grouping that was started can be completed. -/
theorem GroupingCut.exists_grouping (hright : rules.grammar = .rightRecursive)
    {lexemes : List Lexeme} (hcut : GroupingCut rules.grammar lexemes) :
    ∃ body more, Completes rules.grammar (.nested (.grouping body)) lexemes more := by
  rcases hcut with ⟨body, more, hcompletes, -⟩ | ⟨hprecedence, -⟩
  · exact ⟨body, more, hcompletes⟩
  · simp [hright] at hprecedence

theorem bodyCut_of_first {lexemes : List Lexeme} (hcut : StatementCut rules.grammar lexemes) :
    BodyCut rules.grammar lexemes := by
  rcases hcut with ⟨statement, more, hcompletes⟩ | hspoiled
  · exact .inl ⟨[statement], more, .single hcompletes, by simp, .inl rfl⟩
  · exact .inr hspoiled

/-- Behind a statement that was read a body is whole if nothing follows; else its second
statement has begun. -/
theorem bodyCut_of_others {first : Statement} {depth : Nat}
    (hreads : Reads rules (.nested first) depth cursor after)
    (hcut : BodyCut rules.grammar after.lexemes) : BodyCut rules.grammar cursor.lexemes := by
  cases hafter : after.rest with
  | nil =>
      refine .inl ⟨[first], [], ?_, by simp, .inl rfl⟩
      rw [hreads.consumes.lexemes_eq, Cursor.lexemes_of_rest_eq_nil hafter, List.append_nil]
      exact .single (.of_canonical hreads.canonical)
  | cons next tail =>
      rcases hcut with ⟨others, more, hcompletes, -⟩ | hspoiled
      · exact .inl ⟨first :: others, more, completesEach_cons hreads hcompletes,
          by simp, .inr (secondBegun_of_rest_eq_cons hreads hafter hcompletes)⟩
      · exact .inr (hspoiled.of_consumes hreads.consumes)

/-- At the very end a call has read nothing yet. -/
theorem Call.Misses.cut {call : Call α} {expected : Expectation}
    (hmisses : call.Misses budget cursor expected) (hend : cursor.rest = []) :
    call.Cut rules cursor := by
  have hnil := Cursor.lexemes_of_rest_eq_nil hend
  cases hmisses with
  | closing => exact bodyCut_of_first (hnil ▸ statementCut_nil _)
  | climbingStatement | chainStatement => exact fun _ => hnil ▸ statementCut_nil _
  | primary => exact fun _ minimum => hnil ▸ .inl (operandStarted_nil _ minimum)
  | chainOperand => exact fun _ => hnil ▸ ⟨_, _, Completes.missing _⟩
  | expression | numberOrGrouping => exact absurd hend (List.cons_ne_nil _ _)

theorem Cursor.lexemes_before_of_opening (behind : Cursor) (hopening : token.isLeftParen = true) :
    (behind.before token).lexemes = Lexeme.leftParen :: behind.lexemes := by
  rw [← Token.lexeme_eq_leftParen_iff.2 hopening]
  rfl

/-- A call that came to the end has read the start of what it reads. -/
theorem Descent.cut {call : Call α} {outcome : Outcome α}
    (hdescent : Descent rules budget call cursor outcome) :
    outcome.Ended → call.Cut rules cursor := by
  induction hdescent with
  | exhausted => exact fun hended => absurd hended Outcome.not_ended_exhausted
  | missing hmisses => exact fun hended => hmisses.cut (eq_nil_of_missing hended)
  | statement_of_precedence hgrammar hcall ih => exact fun hended => ih hended hgrammar
  | statement_of_rightRecursive hgrammar hcall ih => exact fun hended => ih hended hgrammar
  | grouping opening hbody ih =>
      intro hended _
      rcases ih _ (ended_of_enclosed hended) with
        ⟨body, more, hcompletes, hnonempty, hsecond⟩ | hspoiled
      · refine .inl ⟨body, _, hcompletes.grouping hnonempty, ?_⟩
        intro hprecedence
        rw [hprecedence] at hsecond
        exact hsecond.imp id CrowdsAsOperand.of_secondBegun
      · exact .inr ⟨hspoiled.1, hspoiled.2.append_left [Lexeme.leftParen]⟩
  | closedBody_of_closing => exact fun hended => absurd hended (Outcome.not_ended_ok _ _)
  | closedBody_of_open opening started hopen hfirst hothers ihFirst ihOthers =>
      intro hended
      rcases hended.of_bind with hended | ⟨first, after, hvalue, hended⟩
      · exact bodyCut_of_first (ihFirst hended)
      · exact bodyCut_of_others (hfirst.returns hvalue) (ihOthers _ _ hvalue hended.of_map)
  | openBody_of_ended => exact fun hended => absurd hended (Outcome.not_ended_ok _ _)
  | openBody_before hfirst hothers ihFirst ihOthers =>
      intro hended
      rcases hended.of_bind with hended | ⟨first, after, hvalue, hended⟩
      · rcases ihFirst hended with ⟨statement, more, hcompletes⟩ | hspoiled
        · exact .inl ⟨[statement], more, .single hcompletes⟩
        · exact .inr hspoiled
      · have hreads : Reads rules (.nested first.value) first.depth _ after :=
          hfirst.returns hvalue
        rcases ihOthers _ _ hvalue hended.of_map with ⟨others, more, hcompletes⟩ | hspoiled
        · exact .inl ⟨first.value :: others, more, completesEach_cons hreads hcompletes⟩
        · exact .inr (hspoiled.of_consumes hreads.consumes)
  | climbingStatement_of_opening hopening hbody hclimb ihBody ihClimb =>
      intro hended hprecedence
      rcases hended.of_bind with hended | ⟨body, after, hvalue, hended⟩
      · rw [Cursor.lexemes_before_of_opening _ hopening]
        exact (ihBody hended hopening).statementCut
      · obtain ⟨hlength, hended⟩ := ended_of_followed hended
        have hleft := climbing_of_grouping 1 (hbody.returns hvalue hopening) hlength
        have hcall := hclimb ⟨.nested (.grouping body.value), body.depth⟩ after
        refine statementCut_of_finish ?_ ?_ hended
        · intro operand stop hoperand
          exact (hcall.returns hoperand hprecedence _ hleft).toReads
        · intro hended
          exact (ihClimb _ after hended hprecedence _ hleft).elim OperandStarted.statementCut .inr
  | climbingStatement_of_other hother hclimbing ih =>
      intro hended hprecedence
      refine statementCut_of_finish
        (fun hoperand => (hclimbing.returns hoperand hprecedence).toReads) ?_ hended
      intro hended
      rcases ih hended hprecedence with hstarted | hspoiled | ⟨hhead, -⟩
      · exact hstarted.statementCut
      · exact .inr hspoiled
      · -- No parenthesis comes first, so the operand itself is not crowded.
        have hopening := Token.lexeme_eq_leftParen_iff.1 (Option.some.inj hhead)
        simp [hother] at hopening
  | climbing hprimary hclimb ihPrimary ihClimb =>
      intro hended hprecedence
      rcases hended.of_bind with hended | ⟨left, after, hvalue, hended⟩
      · exact ihPrimary hended hprecedence _
      · have hstarted := ihClimb _ _ hended hprecedence _ (hprimary.returns hvalue _)
        exact hstarted.imp id .inl
  | climb hoperators ih => exact ih
  | operators_of_done => exact fun hended => absurd hended (Outcome.not_ended_ok _ _)
  | operators_of_turn hoperator hminimum hright hturned ihRight ihTurned =>
      intro hended hprecedence start hleft
      rcases hended.of_bind with hended | ⟨right, after, hvalue, hended⟩
      · have hcut := (ihRight hended hprecedence).crowdsAsOperand
        exact started_of_right hprecedence hleft hoperator hminimum hcut
      · rcases hended.of_bind with hwithin | ⟨combined, stop, hwithin, hturn⟩
        · exact absurd hwithin Outcome.not_ended_within
        · obtain ⟨hdepth, rfl, rfl⟩ := Measured.within_eq_ok_iff.1 hwithin
          have hclimbed := hright.returns hvalue hprecedence
          have hcombined := hleft.combine hprecedence hoperator hminimum hclimbed hdepth
          exact ihTurned _ _ _ hvalue hturn hprecedence start hcombined
  | primary_of_number => exact fun hended => absurd hended.of_map not_ended_number
  | primary_of_opening hopening hbody ih =>
      intro hended hprecedence minimum
      rcases hended.of_bind with hended | ⟨body, after, -, hoperand⟩
      · rw [Cursor.lexemes_before_of_opening _ hopening]
        exact (ih hended hopening).operandCut hprecedence minimum
      · exact absurd hoperand not_ended_groupingOperand
  | chainStatement_of_number hkind hexpression ih =>
      exact fun hended hright => .inl (ih hended hright hkind)
  | chainStatement_of_opening hopening hbody ih =>
      intro hended _
      rw [Cursor.lexemes_before_of_opening _ hopening]
      exact (ih hended.of_map hopening).statementCut
  | chainExpression start hoperand ih =>
      intro hended hright hkind
      exact completes_of_linked hright hkind (fun hended => ih _ hended hright) hended
  | chainOperand_of_boundary => exact fun hended => absurd hended.of_map not_ended_number
  | chainOperand_of_operator hkind hgoesOn hexpression ih =>
      intro hended hright
      obtain ⟨statement, more, hcompletes⟩ := ih hended.of_map hright hkind
      exact ⟨_, more, hcompletes⟩
  | chainOperand_of_opening hopening hbody ih =>
      intro hended hright
      rw [Cursor.lexemes_before_of_opening _ hopening]
      obtain ⟨body, more, hcompletes⟩ := (ih hended.of_map hopening).exists_grouping hright
      exact ⟨_, more, hcompletes⟩

/-- A program that came to the end of its tokens can be completed, unless an operand
in them is crowded. -/
theorem completes_of_program {tokens : List Token} (hended : (program rules tokens).Ended) :
    (∃ body more, CompletesEach rules.grammar body (tokens.map Token.lexeme) more) ∨
      Spoiled rules.grammar (tokens.map Token.lexeme) :=
  (descent rules (budgetFor rules.limit) .openBody ⟨tokens, 0⟩).cut hended.of_map

end Production

end Calculator
