import Calculator.Proofs.Grammar.Completeness

/-!
# Chains

Completeness for the right-recursive grammar.  An expression of this grammar is a
chain: a number, an operator and an operand that is a number, a grouping or the
rest of the chain.  Reading looks one token past a number to see whether the chain
goes on.  The nesting count goes up with each link and each grouping and so agrees
with the depth of what is left to read, which is why a tree of exactly the limit
is still found.
-/

namespace Calculator

/-- Where the operand is written, reading a link of a chain returns it. -/
def Operand.Chained (rules : Rules) (operand : Operand) : Prop :=
  ∀ {budget : Nat} {cursor after : Cursor},
    Reads rules operand operand.depth cursor after → after.AtBoundary →
    cursor.nesting + operand.depth ≤ rules.limit → 10 * operand.depth < budget →
    Production.chainOperand rules budget cursor = .ok ⟨operand, operand.depth⟩ after

namespace Statement

theorem depth_link (operator : Operator) (literal : String) (right : Operand) :
    (Statement.expression operator (.number literal) right).depth = right.depth + 1 := by
  simp [Statement.depth, Operand.depth]

/-- The links of a chain start with numbers. -/
theorem exists_left_eq_number {grammar : Grammar} (hchain : grammar = .rightRecursive)
    {operator : Operator} {left right : Operand}
    (hcanonical : (Statement.expression operator left right).Canonical grammar) :
    ∃ literal, left = .number literal := by
  subst hchain
  exact hcanonical.1

end Statement

namespace Production

variable {rules : Rules} {budget : Nat} {cursor after : Cursor}

theorem operator_before {operator : Operator} {token : Token} (cursor : Cursor)
    (hspelled : token.operator? = some operator) :
    Production.operator (cursor.before token) = .ok operator cursor := by
  simp only [Production.operator, Cursor.operator?_before, hspelled]
  rfl

/-- A link is found behind its number if the rest of the chain is. -/
theorem chainExpression_of_chained {start : Token} {operator : Operator} {literal : String}
    {right : Operand} (hright : right.Chained rules)
    (hreads : Reads rules (.nested (.expression operator (.number literal) right))
      (right.depth + 1) (cursor.before start) after)
    (hboundary : after.AtBoundary)
    (hnesting : cursor.nesting + (right.depth + 1) ≤ rules.limit)
    (hbudget : 10 * right.depth + 1 < budget) :
    chainExpression rules budget start cursor =
      .ok ⟨.expression operator (.number literal) right, right.depth + 1⟩ after := by
  obtain ⟨budget, rfl⟩ : ∃ less, budget = less + 1 := ⟨budget - 1, by omega⟩
  obtain ⟨token, middle, hbefore, hlexeme, hchain⟩ := hreads.consumes.exists_cons
  obtain ⟨rfl, rfl⟩ := Cursor.before_injective hbefore
  obtain ⟨-, rfl⟩ := Token.lexeme_eq_number_iff.1 hlexeme
  obtain ⟨symbol, place, rfl, hsymbol, hrest⟩ := hchain.exists_cons
  have hoperator := Token.lexeme_eq_operator_iff.1 hsymbol
  obtain ⟨-, hdots, hcanonical⟩ := hreads.canonical
  have hlevel : (place.before symbol).nesting = place.nesting := rfl
  rw [hlevel] at hnesting
  -- Inside the link everything happens one level further in, and `after` is left at that level.
  have hlink : Production.operator { place.before symbol with nesting := place.nesting + 1 } =
      .ok operator { place with nesting := place.nesting + 1 } :=
    operator_before { place with nesting := place.nesting + 1 } hoperator
  have hoperand : chainOperand rules budget { place with nesting := place.nesting + 1 } =
      .ok ⟨right, right.depth⟩ { after with nesting := after.nesting + 1 } := by
    apply hright ⟨hrest.nest, rfl, by omega, hcanonical⟩ hboundary
    · show place.nesting + 1 + right.depth ≤ rules.limit
      omega
    · omega
  apply linked_eq_ok_iff.2
  exact ⟨operator, _, _, _, hlink, hoperand, hdots, show place.nesting + 1 ≤ rules.limit by omega,
    hreads.depth_le, rfl, rfl⟩

end Production

namespace Operand

variable {rules : Rules}

/-- A number ends the chain, since no operator may follow where it is read. -/
theorem chained_number (literal : String) : (Operand.number literal).Chained rules := by
  intro budget cursor after hreads hboundary _ hbudget
  obtain ⟨budget, rfl⟩ : ∃ less, budget = less + 1 := ⟨budget - 1, by omega⟩
  obtain ⟨token, middle, rfl, hlexeme, hend⟩ := hreads.consumes.exists_cons
  obtain rfl := hend.eq_of_nil
  obtain ⟨hkind, rfl⟩ := Token.lexeme_eq_number_iff.1 hlexeme
  have hnumber : Production.number token middle = .ok token.text middle :=
    Production.number_eq_ok_iff.2 ⟨hreads.canonical, rfl, rfl⟩
  rw [Production.chainOperand_of_boundary hkind hboundary, hnumber]
  rfl

theorem chained_grouping {body : List Statement} (hfound : Statement.AllFound rules body) :
    (Operand.nested (.grouping body)).Chained rules := by
  intro budget cursor after hreads _ hnesting hbudget
  obtain ⟨budget, rfl⟩ : ∃ less, budget = less + 1 := ⟨budget - 1, by omega⟩
  obtain ⟨token, middle, rfl, hlexeme, -⟩ := hreads.consumes.exists_cons
  have hopening := Token.lexeme_eq_leftParen_iff.1 hlexeme
  have hgrouping : Production.grouping rules budget token middle =
      .ok ⟨body, (Statement.grouping body).depth⟩ after :=
    Production.grouping_of_found hfound hreads hnesting (Nat.le_of_lt_succ hbudget)
  rw [Production.chainOperand_of_opening hopening, hgrouping]
  rfl

/-- A number that an operator follows is the first link of a longer chain. -/
theorem chained_expression (hchain : rules.grammar = .rightRecursive) {operator : Operator}
    {left right : Operand} (hright : right.Chained rules) :
    (Operand.nested (.expression operator left right)).Chained rules := by
  intro budget cursor after hreads hboundary hnesting hbudget
  obtain ⟨budget, rfl⟩ : ∃ less, budget = less + 1 := ⟨budget - 1, by omega⟩
  obtain ⟨literal, rfl⟩ := Statement.exists_left_eq_number hchain hreads.canonical
  rw [Operand.depth, Statement.depth_link] at hreads hnesting hbudget
  obtain ⟨token, middle, rfl, hlexeme, hmore⟩ := hreads.consumes.exists_cons
  obtain ⟨symbol, place, rfl, hsymbol, -⟩ := hmore.exists_cons
  have hkind : token.kind = .number := congrArg Prod.fst hlexeme
  have hnext : symbol.kind = .operator := congrArg Prod.fst hsymbol
  have hexpression : Production.chainExpression rules budget token (place.before symbol) =
      .ok ⟨.expression operator (.number literal) right, right.depth + 1⟩ after :=
    Production.chainExpression_of_chained hright hreads hboundary hnesting (by omega)
  have hgoesOn : ¬ (place.before symbol).AtBoundary := fun hstops => hstops symbol rfl hnext
  rw [Operand.depth, Statement.depth_link, Production.chainOperand_of_operator hkind hgoesOn,
    hexpression]
  rfl

end Operand

namespace Statement

variable {rules : Rules}

theorem found_chain (hchain : rules.grammar = .rightRecursive) {operator : Operator}
    {left right : Operand} (hright : right.Chained rules) :
    (Statement.expression operator left right).Found rules := by
  intro budget cursor after hreads hboundary hnesting hbudget
  obtain ⟨budget, rfl⟩ : ∃ less, budget = less + 2 := ⟨budget - 2, by omega⟩
  obtain ⟨literal, rfl⟩ := Statement.exists_left_eq_number hchain hreads.canonical
  rw [Statement.depth_link] at hreads hnesting hbudget
  obtain ⟨token, middle, rfl, hlexeme, -⟩ := hreads.consumes.exists_cons
  have hkind : token.kind = .number := congrArg Prod.fst hlexeme
  have hexpression : Production.chainExpression rules budget token middle =
      .ok ⟨.expression operator (.number literal) right, right.depth + 1⟩ after :=
    Production.chainExpression_of_chained hright hreads hboundary hnesting (by omega)
  rw [Statement.depth_link, Production.statement_of_rightRecursive hchain,
    Production.chainStatement_of_number hkind, hexpression]

theorem found_chain_grouping (hchain : rules.grammar = .rightRecursive) {body : List Statement}
    (hfound : AllFound rules body) : (Statement.grouping body).Found rules := by
  intro budget cursor after hreads _ hnesting hbudget
  obtain ⟨budget, rfl⟩ : ∃ less, budget = less + 2 := ⟨budget - 2, by omega⟩
  obtain ⟨token, middle, rfl, hlexeme, -⟩ := hreads.consumes.exists_cons
  have hopening := Token.lexeme_eq_leftParen_iff.1 hlexeme
  have hgrouping : Production.grouping rules budget token middle =
      .ok ⟨body, (Statement.grouping body).depth⟩ after :=
    Production.grouping_of_found hfound hreads hnesting (by omega)
  rw [Production.statement_of_rightRecursive hchain,
    Production.chainStatement_of_opening hopening, hgrouping]
  rfl

end Statement

mutual

theorem Operand.chained {rules : Rules} (hchain : rules.grammar = .rightRecursive) :
    ∀ operand : Operand, operand.Chained rules
  | .number literal => Operand.chained_number literal
  | .nested statement => (Statement.chained_and_found hchain statement).1

theorem Statement.chained_and_found {rules : Rules} (hchain : rules.grammar = .rightRecursive) :
    ∀ statement : Statement,
      (Operand.nested statement).Chained rules ∧ statement.Found rules
  | .expression _ _ right => by
      have hright : right.Chained rules := Operand.chained hchain right
      exact ⟨Operand.chained_expression hchain hright, Statement.found_chain hchain hright⟩
  | .grouping body => by
      have hfound := Statement.allFound_of_chain hchain body
      exact ⟨Operand.chained_grouping hfound, Statement.found_chain_grouping hchain hfound⟩

theorem Statement.allFound_of_chain {rules : Rules} (hchain : rules.grammar = .rightRecursive) :
    ∀ body : List Statement, Statement.AllFound rules body
  | [] => List.forall_mem_nil _
  | statement :: statements =>
      List.forall_mem_cons.2 ⟨(Statement.chained_and_found hchain statement).2,
        Statement.allFound_of_chain hchain statements⟩

end

end Calculator
