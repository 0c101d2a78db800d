import Calculator.Proofs.Grammar.CallTree

/-!
# Whatever is read was written

A production that ends in a value has read it, in the sense that the tokens
between the two cursors are the written form of a canonical tree.  What the
calls of a production have read is put together to what it has read itself, so
an induction on the descent covers all of them at once.
-/

namespace Calculator

namespace Production

variable {rules : Rules} {budget : Nat} {α : Type} {cursor behind after : Cursor} {token : Token}

/-! ### Operands and links of chains -/

theorem reads_of_number (rules : Rules) {operand : Measured Operand} (hkind : token.kind = .number)
    (hread : ((number token behind).map fun literal => ⟨.number literal, 0⟩) =
      .ok operand after) :
    operand = ⟨.number token.text, 0⟩ ∧
      Reads rules (.number token.text) 0 (behind.before token) after := by
  obtain ⟨literal, hnumber, rfl⟩ := Outcome.map_eq_ok_iff.1 hread
  obtain ⟨hdots, rfl, rfl⟩ := number_eq_ok_iff.1 hnumber
  exact ⟨rfl, reads_number rules after hkind hdots⟩

/-- A grouping that has been read can be extended by every operator if it holds a single
statement. -/
theorem climbing_of_grouping (minimum : Nat) {body : Measured (List Statement)}
    (hbody : Reads rules (.nested (.grouping body.value)) body.depth cursor after)
    (hlength : body.value.length = 1) :
    Climbing rules minimum ⟨.nested (.grouping body.value), body.depth⟩ cursor after :=
  Climbing.of_operator?_eq_none hbody rfl (by simpa [Operand.body?] using hlength)

theorem reads_of_linked {start : Token} {operand : Cursor → Outcome (Measured Operand)}
    (hright : rules.grammar = .rightRecursive) (hkind : start.kind = .number)
    (hoperand : ∀ {place right stop}, operand place = .ok right stop →
      Reads rules right.value right.depth place stop)
    {result : Measured Statement}
    (hread : linked rules.limit start operand cursor = .ok result after) :
    Reads rules (.nested result.value) result.depth (cursor.before start) after := by
  obtain ⟨operator, place, right, stop, hoperator, hvalue, hdots, -, hdepth, rfl, rfl⟩ :=
    linked_eq_ok_iff.1 hread
  have hleft := reads_number rules cursor hkind hdots
  have hrest := hoperand hvalue
  have hmore : Consumes (Lexeme.operator operator :: right.value.lexemes) cursor stop.unnest :=
    ((consumes_of_operator hoperator).append hrest.consumes).unnest
  refine ⟨?_, ?_, hdepth, ?_, hleft.canonical, hrest.canonical⟩
  · exact hleft.consumes.append hmore
  · simp only [Operand.depth, Statement.depth, hrest.depth_eq, Nat.zero_max]
  · rw [hright]
    exact ⟨start.text, rfl⟩

/-! ### Call by call -/

/-- What a call returns has been read.  Some calls are made under one grammar only, and
with a token or an operand that has been read before. -/
def Call.Returns (rules : Rules) : Call α → Cursor → α → Cursor → Prop
  | statement, cursor, result, after =>
      Reads rules (.nested result.value) result.depth cursor after
  | grouping opening, cursor, result, after => opening.isLeftParen = true →
      Reads rules (.nested (.grouping result.value)) result.depth (cursor.before opening) after
  | closedBody _ started, cursor, result, after =>
      Consumes (Statement.lexemesEach result.value ++ [Lexeme.rightParen]) cursor after ∧
        Statement.greatestDepth result.value = result.depth ∧
        Statement.AllCanonical rules.grammar result.value ∧
        (started = false → result.value ≠ [])
  | openBody, cursor, result, after =>
      Consumes (Statement.lexemesEach result) cursor after ∧ after.rest = [] ∧
        Statement.greatestDepth result ≤ rules.limit ∧
        Statement.AllCanonical rules.grammar result
  | climbingStatement, cursor, result, after => rules.grammar = .precedence →
      Reads rules (.nested result.value) result.depth cursor after
  | climbing minimum, cursor, result, after => rules.grammar = .precedence →
      Climbed rules minimum result cursor after
  | climb minimum left, cursor, result, after | operators minimum left, cursor, result, after =>
      rules.grammar = .precedence → ∀ start, Climbing rules minimum left start cursor →
        Climbed rules minimum result start after
  | primary, cursor, result, after => ∀ minimum, Climbing rules minimum result cursor after
  | chainStatement, cursor, result, after => rules.grammar = .rightRecursive →
      Reads rules (.nested result.value) result.depth cursor after
  | chainExpression start, cursor, result, after =>
      rules.grammar = .rightRecursive → start.kind = .number →
        Reads rules (.nested result.value) result.depth (cursor.before start) after
  | chainOperand, cursor, result, after => rules.grammar = .rightRecursive →
      Reads rules result.value result.depth cursor after

theorem Descent.returns {call : Call α} {outcome : Outcome α}
    (hdescent : Descent rules budget call cursor outcome) :
    ∀ {result after}, outcome = .ok result after → call.Returns rules cursor result after := by
  induction hdescent with
  | exhausted | missing =>
      intro result after hread
      cases hread
  | statement_of_precedence hgrammar hcall ih => exact fun hread => ih hread hgrammar
  | statement_of_rightRecursive hgrammar hcall ih => exact fun hread => ih hread hgrammar
  | grouping opening hbody ih =>
      intro result after hread hopening
      obtain ⟨inner, stop, hinner, hlevel, hdepth, rfl, rfl⟩ := enclosed_eq_ok_iff.1 hread
      obtain ⟨hconsumes, hcounted, hcanonical, hnonempty⟩ := ih _ hinner
      refine ⟨?_, ?_, hdepth, hnonempty rfl, hcanonical⟩
      · have hall := hconsumes.unnest.cons opening
        rwa [Token.lexeme_eq_leftParen_iff.2 hopening] at hall
      · simp only [Operand.depth, Statement.depth, hcounted]
  | @closedBody_of_closing opening token behind hclosing budget =>
      intro result after hread
      obtain ⟨rfl, rfl⟩ := Outcome.ok.inj hread
      have hclose := Consumes.single token behind
      rw [Token.lexeme_eq_rightParen_iff.2 hclosing] at hclose
      exact ⟨hclose, rfl, trivial, fun hfresh => absurd hfresh (by decide)⟩
  | closedBody_of_open opening started hopen hfirst hothers ihFirst ihOthers =>
      intro result after hread
      obtain ⟨first, middle, hfirst, hmore⟩ := Outcome.bind_eq_ok_iff.1 hread
      obtain ⟨others, hothers, rfl⟩ := Outcome.map_eq_ok_iff.1 hmore
      have hstatement : Reads rules (.nested first.value) first.depth _ middle := ihFirst hfirst
      obtain ⟨hconsumes, hdepth, hcanonical, -⟩ := ihOthers _ _ hfirst hothers
      refine ⟨?_, ?_, ⟨hstatement.canonical, hcanonical⟩, fun _ => List.cons_ne_nil _ _⟩
      · have hall := hstatement.consumes.append hconsumes
        rwa [← List.append_assoc] at hall
      · rw [Statement.greatestDepth, hdepth]
        exact congrArg (max · others.depth) hstatement.depth_eq
  | openBody_of_ended hend budget =>
      intro result after hread
      obtain ⟨rfl, rfl⟩ := Outcome.ok.inj hread
      exact ⟨Consumes.nil _, hend, Nat.zero_le _, trivial⟩
  | openBody_before hfirst hothers ihFirst ihOthers =>
      intro result after hread
      obtain ⟨first, middle, hfirst, hmore⟩ := Outcome.bind_eq_ok_iff.1 hread
      obtain ⟨others, hothers, rfl⟩ := Outcome.map_eq_ok_iff.1 hmore
      have hstatement : Reads rules (.nested first.value) first.depth _ middle := ihFirst hfirst
      obtain ⟨hconsumes, hend, hdepth, hcanonical⟩ := ihOthers _ _ hfirst hothers
      have hfirstDepth : first.value.depth ≤ rules.limit :=
        Nat.le_trans (Nat.le_of_eq hstatement.depth_eq) hstatement.depth_le
      exact ⟨hstatement.consumes.append hconsumes, hend, Nat.max_le.2 ⟨hfirstDepth, hdepth⟩,
        hstatement.canonical, hcanonical⟩
  | climbingStatement_of_opening hopening hbody hclimb ihBody ihClimb =>
      intro result after hread hprecedence
      obtain ⟨body, middle, hbody, hfollowed⟩ := Outcome.bind_eq_ok_iff.1 hread
      have hgrouping := ihBody hbody hopening
      rcases statement_of_followed hfollowed with ⟨rfl, rfl⟩ | ⟨hlength, hclimbed⟩
      · exact hgrouping
      · have hleft := climbing_of_grouping 1 hgrouping hlength
        exact (ihClimb _ _ hclimbed hprecedence _ hleft).toReads
  | climbingStatement_of_other hother hclimbing ih =>
      intro result after hread hprecedence
      obtain ⟨operand, _, hoperand, hfinish⟩ := Outcome.bind_eq_ok_iff.1 hread
      obtain ⟨rfl, rfl⟩ := finish_eq_ok_iff.1 hfinish
      exact (ih hoperand hprecedence).toReads
  | climbing hprimary hclimb ihPrimary ihClimb =>
      intro result after hread hprecedence
      obtain ⟨left, middle, hleft, hclimbed⟩ := Outcome.bind_eq_ok_iff.1 hread
      exact ihClimb _ _ hclimbed hprecedence _ (ihPrimary hleft _)
  | climb hoperators ih => exact ih
  | operators_of_done left hdone budget =>
      intro result after hread _ start hleft
      obtain ⟨rfl, rfl⟩ := Outcome.ok.inj hread
      exact ⟨hleft, hdone⟩
  | operators_of_turn hoperator hminimum hright hturned ihRight ihTurned =>
      intro result after hread hprecedence start hleft
      obtain ⟨right, middle, hvalue, hcombine⟩ := Outcome.bind_eq_ok_iff.1 hread
      obtain ⟨combined, _, hwithin, hturn⟩ := Outcome.bind_eq_ok_iff.1 hcombine
      obtain ⟨hdepth, rfl, rfl⟩ := Measured.within_eq_ok_iff.1 hwithin
      have hcombined :=
        hleft.combine hprecedence hoperator hminimum (ihRight hvalue hprecedence) hdepth
      exact ihTurned _ _ _ hvalue hturn hprecedence start hcombined
  | primary_of_number behind hkind budget =>
      intro result after hread minimum
      obtain ⟨rfl, hnumber⟩ := reads_of_number rules hkind hread
      exact Climbing.of_operator?_eq_none hnumber rfl (by simp [Operand.body?])
  | primary_of_opening hopening hbody ih =>
      intro result after hread minimum
      obtain ⟨body, _, hbody, hoperand⟩ := Outcome.bind_eq_ok_iff.1 hread
      obtain ⟨hlength, rfl, rfl⟩ := groupingOperand_eq_ok_iff.1 hoperand
      exact climbing_of_grouping minimum (ih hbody hopening) hlength
  | chainStatement_of_number hkind hexpression ih =>
      exact fun hread hright => ih hread hright hkind
  | chainStatement_of_opening hopening hbody ih =>
      intro result after hread _
      obtain ⟨body, hbody, rfl⟩ := Outcome.map_eq_ok_iff.1 hread
      exact ih hbody hopening
  | chainExpression start hoperand ih =>
      intro result after hread hright hkind
      exact reads_of_linked hright hkind (fun hvalue => ih _ hvalue hright) hread
  | chainOperand_of_boundary hkind hboundary budget =>
      intro result after hread _
      obtain ⟨rfl, hnumber⟩ := reads_of_number rules hkind hread
      exact hnumber
  | chainOperand_of_operator hkind hgoesOn hexpression ih =>
      intro result after hread hright
      obtain ⟨expression, hexpression, rfl⟩ := Outcome.map_eq_ok_iff.1 hread
      exact ih hexpression hright hkind
  | chainOperand_of_opening hopening hbody ih =>
      intro result after hread _
      obtain ⟨body, hbody, rfl⟩ := Outcome.map_eq_ok_iff.1 hread
      exact ih hbody hopening

/-- What comes out of a production was written in the tokens. -/
theorem returns_of_read (call : Call α) {result : α}
    (hread : call.read rules budget cursor = .ok result after) :
    call.Returns rules cursor result after :=
  (descent rules budget call cursor).returns hread

/-- A program that is read takes up all tokens and no more nesting than the limit
allows. -/
theorem program_reads {tokens : List Token} {result : Program}
    (hread : program rules tokens = .ok result after) :
    tokens.map Token.lexeme = result.lexemes ∧ result.depth ≤ rules.limit ∧
      result.Canonical rules.grammar := by
  obtain ⟨body, _, hbody, hresult⟩ := Outcome.bind_eq_ok_iff.1 hread
  obtain ⟨rfl, rfl⟩ : _ ∧ _ := by simpa using hresult
  obtain ⟨⟨⟨used, hrest, hused⟩, -⟩, hend, hdepth, hcanonical⟩ :=
    returns_of_read .openBody hbody
  refine ⟨?_, hdepth, hcanonical⟩
  have htokens : tokens = used := by simpa [hend] using hrest
  rw [htokens, hused]
  rfl

end Production

end Calculator
