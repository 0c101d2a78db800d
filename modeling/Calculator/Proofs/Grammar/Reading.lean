import Calculator.Grammar.Production
import Calculator.Proofs.Tree.Form

/-!
# What it means to have read a tree

A tree has been read between two cursors if the tokens between them spell it, it
is a canonical one of its grammar, its depth was counted rightly and does not
exceed the limit, and the nesting count is back where it was.  A climb over
operators needs a little more, since what comes next decides whether the operand
read so far goes on.
-/

namespace Calculator

/-- The cursor has moved over tokens that spell the lexemes, and is nested as
deeply as before. -/
structure Consumes (lexemes : List Lexeme) (cursor after : Cursor) : Prop where
  tokens : ∃ used, cursor.rest = used ++ after.rest ∧ used.map Token.lexeme = lexemes
  nesting : after.nesting = cursor.nesting

namespace Consumes

variable {first second lexemes : List Lexeme} {lexeme : Lexeme} {cursor middle after : Cursor}

theorem nil (cursor : Cursor) : Consumes [] cursor cursor :=
  ⟨⟨[], rfl, rfl⟩, rfl⟩

theorem append (hfirst : Consumes first cursor middle) (hsecond : Consumes second middle after) :
    Consumes (first ++ second) cursor after := by
  obtain ⟨⟨used, hrest, hused⟩, hnesting⟩ := hfirst
  obtain ⟨⟨more, hmiddle, hmore⟩, hafter⟩ := hsecond
  refine ⟨⟨used ++ more, ?_, ?_⟩, hafter.trans hnesting⟩
  · rw [hrest, hmiddle, List.append_assoc]
  · rw [List.map_append, hused, hmore]

theorem single (token : Token) (cursor : Cursor) :
    Consumes [token.lexeme] (cursor.before token) cursor :=
  ⟨⟨[token], rfl, rfl⟩, rfl⟩

theorem cons (token : Token) (hrest : Consumes lexemes cursor after) :
    Consumes (token.lexeme :: lexemes) (cursor.before token) after :=
  (single token cursor).append hrest

/-- Leaving a nested place leads back to the nesting from which it was entered. -/
theorem unnest (hinside : Consumes lexemes { cursor with nesting := cursor.nesting + 1 } after) :
    Consumes lexemes cursor after.unnest := by
  obtain ⟨⟨used, hrest, hused⟩, hnesting⟩ := hinside
  refine ⟨⟨used, hrest, hused⟩, ?_⟩
  simp [Cursor.unnest, hnesting]

theorem exists_append (hall : Consumes (first ++ second) cursor after) :
    ∃ middle, Consumes first cursor middle ∧ Consumes second middle after := by
  obtain ⟨⟨used, hrest, hused⟩, hnesting⟩ := hall
  obtain ⟨left, right, rfl, hleft, hright⟩ := List.map_eq_append_iff.1 hused
  refine ⟨⟨right ++ after.rest, cursor.nesting⟩, ⟨⟨left, ?_, hleft⟩, rfl⟩,
    ⟨⟨right, rfl, hright⟩, hnesting⟩⟩
  rw [hrest, List.append_assoc]

theorem exists_cons (hall : Consumes (lexeme :: lexemes) cursor after) :
    ∃ token middle, cursor = middle.before token ∧ token.lexeme = lexeme ∧
      Consumes lexemes middle after := by
  obtain ⟨⟨used, hrest, hused⟩, hnesting⟩ := hall
  obtain ⟨token, more, rfl, htoken, hmore⟩ := List.map_eq_cons_iff.1 hused
  refine ⟨token, ⟨more ++ after.rest, cursor.nesting⟩, ?_, htoken,
    ⟨⟨more, rfl, hmore⟩, hnesting⟩⟩
  cases cursor
  simp_all [Cursor.before]

theorem nest (hall : Consumes lexemes cursor after) :
    Consumes lexemes { cursor with nesting := cursor.nesting + 1 }
      { after with nesting := after.nesting + 1 } :=
  ⟨hall.tokens, congrArg (· + 1) hall.nesting⟩

theorem eq_of_nil (hall : Consumes [] cursor after) : cursor = after := by
  obtain ⟨⟨used, hrest, hused⟩, hnesting⟩ := hall
  obtain rfl : used = [] := List.map_eq_nil_iff.1 hused
  cases cursor
  cases after
  simp_all

theorem length_rest (hall : Consumes lexemes cursor after) :
    cursor.rest.length = lexemes.length + after.rest.length := by
  obtain ⟨⟨used, hrest, hused⟩, -⟩ := hall
  rw [hrest, List.length_append, ← hused, List.length_map]

end Consumes

namespace Cursor

variable {cursor after : Cursor} {token : Token} {tail : List Token} {statement : Statement}
  {lexemes : List Lexeme}

/-- A cursor stands in front of the first of its tokens. -/
theorem before_eq_of_rest_eq (hrest : cursor.rest = token :: tail) :
    ({ cursor with rest := tail } : Cursor).before token = cursor := by
  cases cursor
  simp_all [before]

theorem before_injective {middle : Cursor} {other : Token}
    (hbefore : cursor.before token = middle.before other) : cursor = middle ∧ token = other := by
  cases cursor
  cases middle
  simp_all [before]

@[simp]
theorem operator?_before (cursor : Cursor) (token : Token) :
    (cursor.before token).operator? = token.operator? := rfl

theorem operator?_of_rest_eq (hrest : cursor.rest = token :: tail) :
    cursor.operator? = token.operator? := by
  simp [operator?, hrest]

/-- No token of kind `operator` comes next, so that a statement may end here. -/
def AtBoundary (cursor : Cursor) : Prop :=
  ∀ token ∈ cursor.rest.head?, token.kind ≠ .operator

theorem AtBoundary.operator?_eq_none (hboundary : cursor.AtBoundary) :
    cursor.operator? = none := by
  cases hrest : cursor.rest with
  | nil => simp [operator?, hrest]
  | cons token tail =>
      have hkind : token.kind ≠ .operator := hboundary token (by simp [hrest])
      simp [operator?_of_rest_eq hrest, Token.operator?, hkind]

theorem atBoundary_before (hkind : token.kind ≠ .operator) :
    (cursor.before token).AtBoundary := by
  simpa [AtBoundary, before] using hkind

/-- The token with which a statement starts. -/
theorem exists_rest_eq_cons_of_statement
    (hstatement : Consumes (statement.lexemes ++ lexemes) cursor after) :
    ∃ token tail, cursor.rest = token :: tail ∧ token.lexeme.Starts := by
  obtain ⟨lexeme, others, hlexemes, hstarts⟩ := statement.exists_lexemes_eq_cons
  rw [hlexemes, List.cons_append] at hstatement
  obtain ⟨token, middle, rfl, rfl, -⟩ := hstatement.exists_cons
  exact ⟨token, middle.rest, rfl, hstarts⟩

/-- A statement may end where the next one is written. -/
theorem atBoundary_of_statement
    (hstatement : Consumes (statement.lexemes ++ lexemes) cursor after) : cursor.AtBoundary := by
  obtain ⟨token, tail, hrest, hstarts⟩ := exists_rest_eq_cons_of_statement hstatement
  rw [← before_eq_of_rest_eq hrest]
  exact atBoundary_before (Token.kind_ne_operator_of_starts hstarts)

/-- Within a body a statement may end where the rest of the body is written. -/
theorem atBoundary_of_body {body : List Statement}
    (hbody : Consumes (Statement.lexemesEach body ++ [Lexeme.rightParen]) cursor after) :
    cursor.AtBoundary := by
  cases body with
  | nil =>
      obtain ⟨token, middle, rfl, hlexeme, -⟩ := hbody.exists_cons
      have hkind : token.kind = .parenthesis := congrArg Prod.fst hlexeme
      exact atBoundary_before (by simp [hkind])
  | cons first others =>
      rw [Statement.lexemesEach, List.append_assoc] at hbody
      exact atBoundary_of_statement hbody

/-- At top level a statement may end where the rest of the program is written. -/
theorem atBoundary_of_program {body : List Statement} (hend : after.rest = [])
    (hbody : Consumes (Statement.lexemesEach body) cursor after) : cursor.AtBoundary := by
  cases body with
  | nil =>
      obtain rfl := hbody.eq_of_nil
      simp [AtBoundary, hend]
  | cons first others => exact atBoundary_of_statement hbody

theorem nest_eq_ok_iff {limit : Nat} {inside : Cursor} :
    cursor.nest limit token = .ok () inside ↔
      cursor.nesting + 1 ≤ limit ∧ inside = { cursor with nesting := cursor.nesting + 1 } := by
  simp only [nest]
  split
  · simp only [reduceCtorEq, false_iff, not_and]
    intro hlimit
    omega
  · simp only [Outcome.ok.injEq, true_and]
    constructor
    · intro hinside
      exact ⟨by omega, hinside.symm⟩
    · intro hinside
      exact hinside.2.symm

end Cursor

theorem Measured.within_eq_ok_iff {α : Type} {limit : Nat} {token : Token}
    {measured result : Measured α} {cursor after : Cursor} :
    measured.within limit token cursor = .ok result after ↔
      measured.depth ≤ limit ∧ result = measured ∧ after = cursor := by
  simp only [within]
  split
  · simp only [reduceCtorEq, false_iff, not_and]
    intro hlimit
    omega
  · simp only [Outcome.ok.injEq]
    constructor
    · rintro ⟨rfl, rfl⟩
      exact ⟨by omega, rfl, rfl⟩
    · rintro ⟨-, rfl, rfl⟩
      exact ⟨rfl, rfl⟩

/-- An operand and its depth have been read between two places. -/
structure Reads (rules : Rules) (operand : Operand) (depth : Nat) (cursor after : Cursor) :
    Prop where
  consumes : Consumes operand.lexemes cursor after
  depth_eq : operand.depth = depth
  depth_le : depth ≤ rules.limit
  canonical : operand.Canonical rules.grammar

/-- Something has been read of every operand. -/
theorem Reads.length_rest_lt {rules : Rules} {operand : Operand} {depth : Nat}
    {cursor after : Cursor} (hreads : Reads rules operand depth cursor after) :
    after.rest.length < cursor.rest.length := by
  obtain ⟨lexeme, others, hlexemes, -⟩ := operand.exists_lexemes_eq_cons
  have hlength := hreads.consumes.length_rest
  rw [hlexemes, List.length_cons] at hlength
  omega

/-- The state of a climb over operators: an operand has been read that binds
tightly enough to be extended, by the operator that comes next as by all others
of the minimum precedence. -/
structure Climbing (rules : Rules) (minimum : Nat) (operand : Measured Operand)
    (cursor after : Cursor) : Prop
    extends Reads rules operand.value operand.depth cursor after where
  binds : ∀ inner ∈ operand.value.operator?, minimum ≤ inner.precedence
  single : ∀ body ∈ operand.value.body?, body.length = 1
  extensible : ∀ inner ∈ operand.value.operator?, ∀ next ∈ after.operator?,
    next.precedence ≤ inner.precedence

/-- A climb that is over: the operator that comes next is too weak for it. -/
structure Climbed (rules : Rules) (minimum : Nat) (operand : Measured Operand)
    (cursor after : Cursor) : Prop
    extends Climbing rules minimum operand cursor after where
  stops : ∀ next ∈ after.operator?, next.precedence < minimum

namespace Climbing

variable {rules : Rules} {minimum : Nat} {left right : Measured Operand} {operator : Operator}
  {token : Token} {start cursor after : Cursor}

/-- An operand that is no bare expression can be extended by every operator. -/
theorem of_operator?_eq_none {operand : Measured Operand}
    (hreads : Reads rules operand.value operand.depth start cursor)
    (hoperator : operand.value.operator? = none)
    (hsingle : ∀ body ∈ operand.value.body?, body.length = 1) :
    Climbing rules minimum operand start cursor := by
  refine ⟨hreads, ?_, hsingle, ?_⟩
  · simp [hoperator]
  · simp [hoperator]

/-- One turn of a climb: the operand read so far, an operator and an operand that
binds tighter combine to the operand of the next turn. -/
theorem combine (hprecedence : rules.grammar = .precedence)
    (hleft : Climbing rules minimum left start (cursor.before token))
    (hoperator : token.operator? = some operator) (hminimum : minimum ≤ operator.precedence)
    (hright : Climbed rules (operator.precedence + 1) right cursor after)
    (hdepth : max left.depth right.depth + 1 ≤ rules.limit) :
    Climbing rules minimum
      ⟨.nested (.expression operator left.value right.value), max left.depth right.depth + 1⟩
      start after := by
  have hlexeme : token.lexeme = Lexeme.operator operator :=
    Token.lexeme_eq_operator_iff.2 hoperator
  have hnext : (cursor.before token).operator? = some operator := by
    rw [Cursor.operator?_before, hoperator]
  refine ⟨⟨?_, ?_, hdepth, ?_⟩, ?_, ?_, ?_⟩
  · have hmore := hleft.consumes.append (hright.consumes.cons token)
    rw [hlexeme] at hmore
    exact hmore
  · simp only [Operand.depth, Statement.depth, hleft.depth_eq, hright.depth_eq]
  · simp only [Operand.Canonical, Statement.Canonical]
    refine ⟨?_, hleft.canonical, hright.canonical⟩
    rw [hprecedence]
    refine ⟨?_, ?_, hleft.single, hright.single⟩
    · intro inner hinner
      exact hleft.extensible inner hinner operator hnext
    · exact hright.binds
  · intro inner hinner
    obtain rfl : operator = inner := by simpa [Operand.operator?] using hinner
    exact hminimum
  · simp [Operand.body?]
  · intro inner hinner next hstop
    obtain rfl : operator = inner := by simpa [Operand.operator?] using hinner
    exact Nat.le_of_lt_succ (hright.stops next hstop)

end Climbing

namespace Production

/-- Reading a number consumes its token. -/
theorem number_eq_ok_iff {token : Token} {cursor after : Cursor} {literal : String} :
    number token cursor = .ok literal after ↔
      token.dots ≤ 1 ∧ literal = token.text ∧ after = cursor := by
  simp only [number]
  split
  · simp only [reduceCtorEq, false_iff, not_and]
    intro hdots
    omega
  · simp only [Outcome.ok.injEq]
    constructor
    · rintro ⟨rfl, rfl⟩
      exact ⟨by omega, rfl, rfl⟩
    · rintro ⟨-, rfl, rfl⟩
      exact ⟨rfl, rfl⟩

theorem reads_number (rules : Rules) (cursor : Cursor) {token : Token}
    (hkind : token.kind = .number) (hdots : token.dots ≤ 1) :
    Reads rules (.number token.text) 0 (cursor.before token) cursor := by
  have hlexeme : token.lexeme = Lexeme.number token.text :=
    Token.lexeme_eq_number_iff.2 ⟨hkind, rfl⟩
  refine ⟨?_, rfl, Nat.zero_le _, ?_⟩
  · rw [Operand.lexemes, ← hlexeme]
    exact Consumes.single token cursor
  · exact hdots

theorem consumes_of_operator {operator : Operator} {cursor after : Cursor}
    (hread : Production.operator cursor = .ok operator after) :
    Consumes [Lexeme.operator operator] cursor after := by
  simp only [Production.operator] at hread
  split at hread
  · rename_i spelled hspelled
    obtain ⟨rfl, rfl⟩ : _ ∧ _ := by simpa using hread
    cases hrest : cursor.rest with
    | nil => simp [Cursor.operator?, hrest] at hspelled
    | cons token tail =>
        rw [Cursor.operator?_of_rest_eq hrest] at hspelled
        have hsingle := Consumes.single token { cursor with rest := tail }
        rw [Token.lexeme_eq_operator_iff.2 hspelled, Cursor.before_eq_of_rest_eq hrest] at hsingle
        exact hsingle
  · simp at hread

theorem groupingOperand_eq_ok_iff {opening : Token} {body : Measured (List Statement)}
    {cursor after : Cursor} {operand : Measured Operand} :
    groupingOperand opening body cursor = .ok operand after ↔
      body.value.length = 1 ∧ operand = ⟨.nested (.grouping body.value), body.depth⟩ ∧
        after = cursor := by
  simp only [groupingOperand]
  split
  · rename_i hlength
    simp [hlength, Measured.map, eq_comm]
  · rename_i hlength
    simp [hlength]

theorem finish_eq_ok_iff {operand : Measured Operand} {cursor after : Cursor}
    {statement : Measured Statement} :
    finish operand cursor = .ok statement after ↔
      operand = ⟨.nested statement.value, statement.depth⟩ ∧ after = cursor := by
  obtain ⟨value, depth⟩ := operand
  obtain ⟨inner, innerDepth⟩ := statement
  cases value with
  | number literal => simp [finish]
  | nested nested => simp [finish, eq_comm, and_assoc]

end Production

end Calculator
