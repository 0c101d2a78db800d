import Calculator.Proofs.Grammar.Simulation

/-!
# Two readings, call by call

The calls of a first reading are repeated by a second one on tokens that correspond.  A
production goes by the kind and text of the next token and by what its calls return, so the
second reading takes the path that the first one takes, up to an end that it may go beyond.
This is shown by induction on the descent of the first reading, once for all senses in which
tokens correspond.
-/

namespace Calculator

namespace Production

variable {first second : Rules} {simulation : Simulation first second} {α : Type}
  {cursor longer : Cursor} {token other : Token}

/-! ### Steps -/

theorem operator_of_ended (hend : cursor.rest = []) :
    Production.operator cursor = .failed (.ended .operator) cursor := by
  simp [Production.operator, Cursor.operator?, hend, Problem.missing]

theorem repeats_operator (hcursors : simulation.cursors cursor longer) :
    simulation.Repeats (Production.operator cursor) (Production.operator longer) := by
  rcases cursor.eq_end_or_before with hend | ⟨token, behind, rfl⟩
  · rw [operator_of_ended hend]
    rcases simulation.ended hcursors hend with hmore | hover
    · exact .goneOn hmore _ _ _
    · rw [operator_of_ended hover]
      exact .again (.ended _) hcursors
  · obtain ⟨other, more, rfl, hbehind, -, hpair, -⟩ := simulation.next hcursors
    have hspelled : (more.before other).operator? = (behind.before token).operator? :=
      Simulation.operator?_eq hpair
    rw [Production.operator, Production.operator, hspelled]
    cases (behind.before token).operator? with
    | none => exact .again (.unexpected _ hpair) hcursors
    | some operator => exact ⟨more, rfl, hbehind⟩

/-- A number at the end of the text may grow, and may grow a second dot. -/
theorem deepens_number (hcursors : simulation.cursors (cursor.before token) (longer.before other)) :
    simulation.Deepens
      ((number token cursor).map fun literal => (⟨.number literal, 0⟩ : Measured Operand))
      ((number other longer).map fun literal => ⟨.number literal, 0⟩) := by
  obtain ⟨hbehind, -, hpair, htext⟩ := Simulation.behind hcursors
  by_cases hdots : 1 < token.dots
  · have hmore : 1 < other.dots := Nat.lt_of_lt_of_le hdots (simulation.dots_le hpair)
    rw [number, if_pos hdots, number, if_pos hmore]
    exact .again (.ambiguous hpair) hcursors
  · rw [number, if_neg hdots]
    refine ⟨?_, fun _ _ _ => Nat.zero_le _⟩
    intro hsettled
    have hsame := htext hsettled
    rw [Token.dots, ← hsame, ← Token.dots] at hdots
    rw [number, if_neg hdots, hsame]
    exact ⟨longer, rfl, hbehind⟩

theorem repeats_groupingOperand (body : Measured (List Statement))
    (hpair : simulation.tokens token other) (hcursors : simulation.cursors cursor longer) :
    simulation.Repeats (groupingOperand token body cursor) (groupingOperand other body longer) := by
  rw [groupingOperand, groupingOperand]
  split
  · exact ⟨longer, rfl, hcursors⟩
  · exact .again (.unexpected _ hpair) hcursors

theorem deepens_finish {operand grown : Measured Operand}
    (hcursors : simulation.cursors cursor longer) (hdepth : operand.depth ≤ grown.depth)
    (hsame : simulation.Settled cursor → grown = operand) :
    simulation.Deepens (finish operand cursor) (finish grown longer) := by
  obtain ⟨value, depth⟩ := operand
  cases value with
  | number literal =>
      by_cases hsettled : simulation.Settled cursor
      · rw [hsame hsettled]
        exact Simulation.persists_missing hcursors .operator
      · obtain ⟨hmore, hend⟩ := Simulation.mayGoOn_of_not_settled hsettled
        rw [finish, hend]
        exact .goneOn hmore _ _ _
  | nested statement =>
      refine ⟨?_, ?_⟩
      · intro hsettled
        rw [hsame hsettled]
        exact ⟨longer, rfl, hcursors⟩
      · intro result later hresult
        obtain ⟨rfl, -⟩ := finish_eq_ok_iff.1 hresult
        exact hdepth

theorem ends_finish {operand : Measured Operand} (hend : cursor.rest = []) :
    (finish operand cursor).Ends := by
  obtain ⟨value, depth⟩ := operand
  cases value with
  | number literal =>
      rw [finish, hend]
      intro expected found
      simp [Problem.missing]
  | nested statement => exact hend

theorem deepens_finished {operand operandLong : Outcome (Measured Operand)}
    (hdeepens : simulation.Deepens operand operandLong) :
    simulation.Deepens (operand.bind finish) (operandLong.bind finish) := by
  apply hdeepens.bind
  · intro value grown after later _ _ hafter hdepth hsame
    exact deepens_finish hafter hdepth hsame
  · exact fun _ hend => ends_finish hend

theorem repeats_enclosed {body bodyLong : Cursor → Outcome (Measured (List Statement))}
    (hcursors : simulation.cursors (cursor.before token) (longer.before other))
    (hbody : ∀ {inside insideLong}, simulation.cursors inside insideLong →
      simulation.Repeats (body inside) (bodyLong insideLong)) :
    simulation.Repeats (enclosed first.limit token body cursor)
      (enclosed second.limit other bodyLong longer) := by
  obtain ⟨hbehind, hnesting, hpair, -⟩ := Simulation.behind hcursors
  apply (Simulation.repeats_nest hpair hbehind hnesting).bind
  intro _ inside insideLong _ _ hinside
  apply (hbody hinside).bind
  intro body after later _ _ hafter
  exact Simulation.repeats_within _ hpair (simulation.unnest hafter)

theorem deepens_linked {operand operandLong : Cursor → Outcome (Measured Operand)}
    (hcursors : simulation.cursors (cursor.before token) (longer.before other))
    (hoperand : ∀ {place placeLong}, simulation.cursors place placeLong →
      simulation.Deepens (operand place) (operandLong placeLong)) :
    simulation.Deepens (linked first.limit token operand cursor)
      (linked second.limit other operandLong longer) := by
  obtain ⟨hbehind, hnesting, hpair, htext⟩ := Simulation.behind hcursors
  apply (Simulation.repeats_nest hpair hcursors hnesting).bind
  intro _ inside insideLong hnest hnestLong hinside
  obtain ⟨-, rfl⟩ := Cursor.nest_eq_ok_iff.1 hnest
  obtain ⟨-, rfl⟩ := Cursor.nest_eq_ok_iff.1 hnestLong
  by_cases hdots : 1 < token.dots
  · have hmore : 1 < other.dots := Nat.lt_of_lt_of_le hdots (simulation.dots_le hpair)
    rw [number, if_pos hdots, number, if_pos hmore]
    exact .again (.ambiguous hpair) hinside
  · rw [number, if_neg hdots, Outcome.bind_ok]
    by_cases hsettled : simulation.Settled cursor
    · have hsame := htext hsettled
      rw [Token.dots, ← hsame, ← Token.dots] at hdots
      rw [number, if_neg hdots, Outcome.bind_ok, hsame]
      apply (repeats_operator (simulation.nest hbehind)).bind
      intro operator place placeLong _ _ hplace
      apply (hoperand hplace).bind
      · intro right grown after later _ _ hafter hdepth hagree
        apply Simulation.deepens_within hpair (simulation.unnest hafter) (Nat.succ_le_succ hdepth)
        intro hafterSettled
        rw [hagree hafterSettled]
      · exact fun _ hend => Simulation.ends_within hend
    · obtain ⟨hmore, hend⟩ := Simulation.mayGoOn_of_not_settled hsettled
      have hmissing := operator_of_ended
        (show (⟨cursor.rest, cursor.nesting + 1⟩ : Cursor).rest = [] from hend)
      exact hmissing ▸ .goneOn hmore _ _ _

/-! ### Ends -/

variable {budget larger minimum : Nat} {opening : Token} {started : Bool} {left : Measured Operand}

/-- What a loop comes to at the end of the tokens, where it makes no calls. -/
def Call.StopsAtEnd : Call α → Cursor → Outcome α → Prop
  | closedBody opening _, cursor, outcome =>
      outcome = .exhausted ∨ outcome = .failed (.ended (.closing opening)) cursor
  | openBody, cursor, outcome => outcome = .exhausted ∨ outcome = .ok [] cursor
  | climb _ _, _, outcome | operators _ _, _, outcome => outcome.Ends
  | _, _, _ => True

theorem Descent.stopsAtEnd {call : Call α} {outcome : Outcome α}
    (hdescent : Descent first budget call cursor outcome) :
    cursor.rest = [] → call.StopsAtEnd cursor outcome := by
  induction hdescent with
  | exhausted call cursor =>
      intro _
      cases call with
      | closedBody | openBody => exact .inl rfl
      | _ => trivial
  | missing hmisses =>
      intro hend
      cases hmisses with
      | closing => exact .inr (by rw [hend]; rfl)
      | expression => exact absurd hend (List.cons_ne_nil _ _)
      | _ => trivial
  | closedBody_of_closing | closedBody_of_open | openBody_before | operators_of_turn =>
      exact fun hend => absurd hend (List.cons_ne_nil _ _)
  | openBody_of_ended => exact fun _ => .inr rfl
  | climb hoperators ih => exact ih
  | operators_of_done => exact id
  | _ => exact fun _ => trivial

/-! ### Call by call -/

/-- What the outcome of a call says about the call that the second reading makes in its
place. -/
def Call.Follows (simulation : Simulation first second) (larger : Nat) :
    Call α → Cursor → Outcome α → Prop
  | statement, cursor, short => ∀ longer, simulation.cursors cursor longer →
      simulation.Deepens short (Production.statement second larger longer)
  | grouping opening, cursor, short => ∀ other longer,
      simulation.cursors (cursor.before opening) (longer.before other) →
      simulation.Repeats short (Production.grouping second larger other longer)
  | closedBody opening started, cursor, short => ∀ other longer,
      simulation.tokens opening other → simulation.cursors cursor longer →
      simulation.Repeats short
        (Production.closedBody (Production.statement second larger) other started longer)
  | openBody, cursor, short => ∀ longer, simulation.cursors cursor longer →
      simulation.Binds simulation.Completed short
        (Production.openBody (Production.statement second larger) longer)
  | climbingStatement, cursor, short => ∀ longer, simulation.cursors cursor longer →
      simulation.Deepens short (Production.climbingStatement second larger longer)
  | climbing minimum, cursor, short => ∀ longer, simulation.cursors cursor longer →
      simulation.Deepens short (Production.climbing second larger minimum longer)
  | climb minimum left, cursor, short => ∀ grown longer, simulation.cursors cursor longer →
      left.depth ≤ grown.depth → (simulation.Settled cursor → grown = left) →
      simulation.Deepens short (Production.climb second larger minimum grown longer)
  | operators minimum left, cursor, short => ∀ grown longer, simulation.cursors cursor longer →
      left.depth ≤ grown.depth → (simulation.Settled cursor → grown = left) →
      simulation.Deepens short
        (Production.operators second.limit (Production.climbing second larger) minimum grown longer)
  | primary, cursor, short => ∀ longer, simulation.cursors cursor longer →
      simulation.Deepens short (Production.primary second larger longer)
  | chainStatement, cursor, short => ∀ longer, simulation.cursors cursor longer →
      simulation.Deepens short (Production.chainStatement second larger longer)
  | chainExpression start, cursor, short => ∀ other longer,
      simulation.cursors (cursor.before start) (longer.before other) →
      simulation.Deepens short (Production.chainExpression second larger other longer)
  | chainOperand, cursor, short => ∀ longer, simulation.cursors cursor longer →
      simulation.Deepens short (Production.chainOperand second larger longer)

theorem Call.follows_exhausted (call : Call α) (cursor : Cursor) :
    call.Follows simulation larger cursor .exhausted := by
  cases call with
  | grouping | chainExpression => exact fun _ _ _ => trivial
  | closedBody => exact fun _ _ _ _ => trivial
  | climb | operators => exact fun _ _ _ _ _ => trivial
  | _ => exact fun _ _ => trivial

theorem exists_less (hbudget : budget + 1 ≤ larger) : ∃ less, larger = less + 1 ∧ budget ≤ less :=
  ⟨larger - 1, by omega, by omega⟩

theorem noOperand_of_cursors (hcursors : simulation.cursors cursor longer)
    (hnone : NoOperand cursor) : simulation.mayGoOn ∧ cursor.rest = [] ∨ NoOperand longer := by
  rcases cursor.eq_end_or_before with hend | ⟨token, behind, rfl⟩
  · rcases simulation.ended hcursors hend with hmore | hover
    · exact .inl ⟨hmore, hend⟩
    · right
      intro next hnext
      simp [hover] at hnext
  · obtain ⟨other, more, rfl, -, -, hpair, -⟩ := simulation.next hcursors
    obtain ⟨hkind, hopening⟩ := hnone token rfl
    right
    rintro _ ⟨⟩
    refine ⟨?_, (Simulation.isLeftParen_eq hpair).trans hopening⟩
    rwa [simulation.kind_eq hpair]

/-- A token that the first reading misses is missed by the second, unless it goes on. -/
theorem persists_of_misses (call : Call α) {expected : Expectation}
    (hcursors : simulation.cursors cursor longer)
    (hmisses : simulation.mayGoOn ∧ cursor.rest = [] ∨ call.Misses larger longer expected) :
    simulation.Persists (.missing expected cursor.rest) cursor
      (call.read second larger longer) := by
  rcases hmisses with ⟨hmore, hend⟩ | hmisses
  · rw [hend]
    exact .goneOn hmore _ _ _
  · rw [hmisses.read_eq]
    exact Simulation.persists_missing hcursors expected

theorem Call.Misses.follows {call : Call α} {expected : Expectation}
    (hmisses : call.Misses budget cursor expected) (hbudget : budget ≤ larger) :
    call.Follows simulation larger cursor (.failed (.missing expected cursor.rest) cursor) := by
  cases hmisses with
  | closing opening started _ hend =>
      intro other longer hpair hcursors
      rw [hend]
      rcases simulation.ended hcursors hend with hmore | hover
      · exact .goneOn hmore _ _ _
      · rw [Production.closedBody_of_ended hover, hover]
        exact .again (.unclosed hpair) hcursors
  | expression opening _ behind hclosing =>
      intro other longer _ hcursors
      obtain ⟨found, more, rfl, -, -, hpair, -⟩ := simulation.next hcursors
      have hcloses := (Simulation.isRightParen_eq hpair).trans hclosing
      exact persists_of_misses (.closedBody other false) hcursors
        (.inr (.expression other larger more hcloses))
  | climbingStatement _ hend =>
      intro longer hcursors
      obtain ⟨larger, rfl, -⟩ := exists_less hbudget
      have hover := simulation.ended hcursors hend
      exact persists_of_misses .climbingStatement hcursors
        (hover.imp (⟨·, hend⟩) (.climbingStatement larger))
  | primary _ hnone =>
      intro longer hcursors
      obtain ⟨larger, rfl, -⟩ := exists_less hbudget
      have hover := noOperand_of_cursors hcursors hnone
      exact persists_of_misses .primary hcursors (hover.imp id (.primary larger))
  | chainStatement _ hend =>
      intro longer hcursors
      obtain ⟨larger, rfl, -⟩ := exists_less hbudget
      have hover := simulation.ended hcursors hend
      exact persists_of_misses .chainStatement hcursors
        (hover.imp (⟨·, hend⟩) (.chainStatement larger))
  | numberOrGrouping _ behind hnone =>
      intro longer hcursors
      obtain ⟨larger, rfl, -⟩ := exists_less hbudget
      have hover := noOperand_of_cursors hcursors hnone
      obtain ⟨other, more, rfl, -⟩ := simulation.next hcursors
      exact persists_of_misses .chainStatement hcursors
        (hover.imp id (.numberOrGrouping larger more))
  | chainOperand _ hnone =>
      intro longer hcursors
      obtain ⟨larger, rfl, -⟩ := exists_less hbudget
      have hover := noOperand_of_cursors hcursors hnone
      exact persists_of_misses .chainOperand hcursors (hover.imp id (.chainOperand larger))

/-- What follows a grouping at the start of a statement is no less deep than the grouping. -/
theorem depth_le_of_followed {rules : Rules} {body : Measured (List Statement)}
    {result : Measured Statement} {after : Cursor}
    (hread : followed token (climb rules budget 1) body cursor = .ok result after) :
    body.depth ≤ result.depth := by
  rcases statement_of_followed hread with ⟨rfl, -⟩ | ⟨-, hclimbed⟩
  · exact Nat.le_refl _
  · exact (leavesBehind_of_read (.climb 1 ⟨.nested (.grouping body.value), body.depth⟩) hclimbed).2

/-- Where the first reading ends behind a grouping, the second may use it as an operand and
so only make it deeper. -/
theorem deepens_followed {climbed : Measured Operand → Cursor → Outcome (Measured Operand)}
    {body : Measured (List Statement)} (hpair : simulation.tokens token other)
    (hcursors : simulation.cursors cursor longer)
    (hclimbed : ∀ left place placeLong, simulation.cursors place placeLong →
      simulation.Deepens (climbed left place) (climb second larger 1 left placeLong)) :
    simulation.Deepens (followed token climbed body cursor)
      (followed other (climb second larger 1) body longer) := by
  by_cases hsettled : simulation.Settled cursor
  · rw [followed, followed, Simulation.operator?_eq_of_settled hcursors hsettled]
    split
    · exact Simulation.Repeats.deepens ⟨longer, rfl, hcursors⟩
    · apply (repeats_groupingOperand body hpair hcursors).bind
      intro left place placeLong _ _ hplace
      exact deepens_finished (hclimbed left place placeLong hplace)
  · obtain ⟨hmore, hend⟩ := Simulation.mayGoOn_of_not_settled hsettled
    have hnone : cursor.operator? = none := by simp [Cursor.operator?, hend]
    rw [followed, hnone]
    refine ⟨fun hsettled => absurd hend (hsettled hmore), ?_⟩
    intro result later hresult
    exact depth_le_of_followed hresult

theorem atBoundary_of_ended (hend : cursor.rest = []) : cursor.AtBoundary := by
  simp [Cursor.AtBoundary, hend]

/-- What the second reading makes of a number in a chain, if there may be more behind it. -/
theorem unread_chainOperand {rules : Rules} (hkind : token.kind = .number)
    (hdots : 1 < token.dots) :
    (chainOperand rules (budget + 1) (cursor.before token)).Unread := by
  intro result after hread
  by_cases hboundary : cursor.AtBoundary
  · rw [chainOperand_of_boundary hkind hboundary, number, if_pos hdots] at hread
    simp [Outcome.map] at hread
  · rw [chainOperand_of_operator hkind hboundary] at hread
    obtain ⟨expression, hexpression, -⟩ := Outcome.map_eq_ok_iff.1 hread
    cases budget with
    | zero => simp [chainExpression] at hexpression
    | succ budget =>
        obtain ⟨operator, place, right, stop, -, -, hsingle, -⟩ :=
          linked_eq_ok_iff.1 hexpression
        omega

theorem deepens_chainOperand_of_boundary (hkind : token.kind = .number)
    (hboundary : cursor.AtBoundary)
    (hcursors : simulation.cursors (cursor.before token) (longer.before other)) :
    simulation.Deepens
      ((number token cursor).map fun literal => (⟨.number literal, 0⟩ : Measured Operand))
      (chainOperand second (larger + 1) (longer.before other)) := by
  obtain ⟨hbehind, -, hpair, -⟩ := Simulation.behind hcursors
  have hother := (simulation.kind_eq hpair).trans hkind
  by_cases hsettled : simulation.Settled cursor
  · have hover := (Simulation.atBoundary_iff hbehind hsettled).2 hboundary
    rw [chainOperand_of_boundary hother hover]
    exact deepens_number hcursors
  · -- The text ends behind the number, so only its dots count.
    obtain ⟨hmore, hend⟩ := Simulation.mayGoOn_of_not_settled hsettled
    by_cases hdots : 1 < token.dots
    · have hgrown : 1 < other.dots := Nat.lt_of_lt_of_le hdots (simulation.dots_le hpair)
      rw [number, if_pos hdots]
      exact .hopeless hmore (by simp) _ (unread_chainOperand hother hgrown)
    · rw [number, if_neg hdots]
      exact ⟨fun hsettled => absurd hend (hsettled hmore), fun _ _ _ => Nat.zero_le _⟩

/-- The second reading follows the first, call by call. -/
theorem follows_of_descent (simulation : Simulation first second) {call : Call α}
    {short : Outcome α} (hdescent : Descent first budget call cursor short) :
    ∀ {larger}, budget ≤ larger → call.Follows simulation larger cursor short := by
  induction hdescent with
  | exhausted call cursor => exact fun _ => call.follows_exhausted cursor
  | missing hmisses => exact hmisses.follows
  | statement_of_precedence hgrammar hcall ih =>
      intro larger hbudget longer hcursors
      obtain ⟨larger, rfl, hless⟩ := exists_less hbudget
      rw [statement_of_precedence (simulation.rules.grammar_eq.trans hgrammar)]
      exact ih hless longer hcursors
  | statement_of_rightRecursive hgrammar hcall ih =>
      intro larger hbudget longer hcursors
      obtain ⟨larger, rfl, hless⟩ := exists_less hbudget
      rw [statement_of_rightRecursive (simulation.rules.grammar_eq.trans hgrammar)]
      exact ih hless longer hcursors
  | grouping opening hbody ih =>
      intro larger hbudget other longer hcursors
      obtain ⟨larger, rfl, hless⟩ := exists_less hbudget
      obtain ⟨-, -, hpair, -⟩ := Simulation.behind hcursors
      rw [grouping_eq_enclosed]
      exact repeats_enclosed hcursors fun hinside => ih _ hless other _ hpair hinside
  | closedBody_of_closing opening behind hclosing budget =>
      intro larger _ other longer _ hcursors
      obtain ⟨found, more, rfl, hbehind, -, hpair, -⟩ := simulation.next hcursors
      rw [closedBody_of_closing ((Simulation.isRightParen_eq hpair).trans hclosing)]
      exact ⟨more, rfl, hbehind⟩
  | closedBody_of_open opening started hopen hfirst hothers ihFirst ihOthers =>
      intro larger hbudget other longer hopening hcursors
      have hstatement := ihFirst hbudget longer hcursors
      obtain ⟨found, more, rfl, -, -, hpair, -⟩ := simulation.next hcursors
      rw [closedBody_of_open (shortens_of_statement second larger)
        ((Simulation.isRightParen_eq hpair).trans hopen)]
      apply Simulation.Deepens.bind_settled hstatement
      · intro first after later hvalue hafter
        exact Simulation.Repeats.map (ihOthers _ _ hvalue hbudget other later hopening hafter) _
      · -- The second reading may go beyond this end, where the first waits for the parenthesis.
        intro first after long hmore hvalue hend
        rcases (hothers _ _ hvalue).stopsAtEnd hend with hcut | hended
        · rw [hcut]
          trivial
        · rw [hended]
          exact .goneOn hmore _ _ _
  | openBody_of_ended hend budget =>
      intro larger _ longer hcursors
      rcases simulation.ended hcursors hend with hmore | hover
      · exact .inl hmore
      · rw [openBody_of_ended hover]
        exact .inr ⟨longer, rfl, hcursors⟩
  | openBody_before hfirst hothers ihFirst ihOthers =>
      intro larger hbudget longer hcursors
      have hstatement := ihFirst hbudget longer hcursors
      obtain ⟨found, more, rfl, -⟩ := simulation.next hcursors
      rw [openBody_before (shortens_of_statement second larger)]
      apply Simulation.Deepens.bind_settled hstatement
      · intro first after later hvalue hafter
        apply Simulation.Binds.bind (ihOthers _ _ hvalue hbudget later hafter)
        rintro others stop _ (hmore | ⟨stopLong, hlong, hstop⟩)
        · exact .inl hmore
        · rw [hlong]
          exact .inr ⟨stopLong, rfl, hstop⟩
      · intro first after long hmore hvalue hend
        rcases (hothers _ _ hvalue).stopsAtEnd hend with hcut | hended
        · rw [hcut]
          trivial
        · rw [hended]
          exact .inl hmore
  | climbingStatement_of_opening hopening hbody hclimb ihBody ihClimb =>
      intro larger hbudget longer hcursors
      obtain ⟨larger, rfl, hless⟩ := exists_less hbudget
      obtain ⟨other, more, rfl, -, -, hpair, -⟩ := simulation.next hcursors
      rw [climbingStatement_of_opening ((Simulation.isLeftParen_eq hpair).trans hopening)]
      apply Simulation.Repeats.bind (ihBody hless other more hcursors)
      intro body after later _ _ hafter
      apply deepens_followed hpair hafter
      intro left place placeLong hplace
      exact ihClimb left place hless left placeLong hplace (Nat.le_refl _) fun _ => rfl
  | climbingStatement_of_other hother hclimbing ih =>
      intro larger hbudget longer hcursors
      obtain ⟨larger, rfl, hless⟩ := exists_less hbudget
      have hoperand := ih hless longer hcursors
      obtain ⟨other, more, rfl, -, -, hpair, -⟩ := simulation.next hcursors
      rw [climbingStatement_of_other ((Simulation.isLeftParen_eq hpair).trans hother)]
      exact deepens_finished hoperand
  | climbing hprimary hclimb ihPrimary ihClimb =>
      intro larger hbudget longer hcursors
      obtain ⟨larger, rfl, hless⟩ := exists_less hbudget
      rw [climbing_eq_bind]
      apply Simulation.Deepens.bind (ihPrimary hless longer hcursors)
      · intro left grown after later _ _ hafter hdepth hsame
        exact ihClimb left after hless grown later hafter hdepth hsame
      · intro left after _ hend
        exact (hclimb left after).stopsAtEnd hend
  | climb hoperators ih =>
      intro larger hbudget grown longer hcursors hdepth hsame
      obtain ⟨larger, rfl, hless⟩ := exists_less hbudget
      rw [climb_eq_operators]
      exact ih hless grown longer hcursors hdepth hsame
  | @operators_of_done minimum left _ hdone budget =>
      intro larger _ grown longer hcursors hdepth hsame
      refine ⟨?_, ?_⟩
      · intro hsettled
        rw [← Simulation.operator?_eq_of_settled hcursors hsettled] at hdone
        rw [hsame hsettled, operators_of_done hdone]
        exact ⟨longer, rfl, hcursors⟩
      · -- Behind the end of the first reading an operator may come, and only make it deeper.
        intro result later hread
        exact Nat.le_trans hdepth (leavesBehind_of_read (.operators minimum grown) hread).2
  | operators_of_turn hoperator hminimum hright hturned ihRight ihTurned =>
      intro larger hbudget grown longer hcursors hdepth hsame
      -- The operator follows, so up to here the two readings have the same operand.
      obtain rfl := hsame (Simulation.settled_before _ _)
      obtain ⟨other, more, rfl, hbehind, -, hpair, -⟩ := simulation.next hcursors
      rw [operators_of_turn (shortens_of_climbing second larger _)
        ((Simulation.operator?_eq hpair).trans hoperator) hminimum]
      apply Simulation.Deepens.bind (ihRight hbudget more hbehind)
      · intro right rightGrown after later hvalue _ hafter hdeeper hagree
        apply Simulation.Deepens.bind (Simulation.deepens_within hpair hafter _ _)
        · intro combined combinedGrown stop stopLong hwithin _ hstop hmore hequal
          obtain ⟨-, -, rfl⟩ := Measured.within_eq_ok_iff.1 hwithin
          exact ihTurned _ combined _ hvalue hbudget combinedGrown stopLong hstop hmore hequal
        · intro combined stop hwithin hend
          obtain ⟨-, -, rfl⟩ := Measured.within_eq_ok_iff.1 hwithin
          exact (hturned _ combined _ hvalue).stopsAtEnd hend
        · simp only
          omega
        · intro hsettled
          rw [hagree hsettled]
      · intro right after hvalue hend
        apply (Simulation.ends_within hend).bind
        intro combined stop hwithin hover
        obtain ⟨-, -, rfl⟩ := Measured.within_eq_ok_iff.1 hwithin
        exact (hturned _ combined _ hvalue).stopsAtEnd hover
  | primary_of_number behind hkind budget =>
      intro larger hbudget longer hcursors
      obtain ⟨larger, rfl, -⟩ := exists_less hbudget
      obtain ⟨other, more, rfl, -, -, hpair, -⟩ := simulation.next hcursors
      rw [primary_of_number ((simulation.kind_eq hpair).trans hkind)]
      exact deepens_number hcursors
  | primary_of_opening hopening hbody ih =>
      intro larger hbudget longer hcursors
      obtain ⟨larger, rfl, hless⟩ := exists_less hbudget
      obtain ⟨other, more, rfl, -, -, hpair, -⟩ := simulation.next hcursors
      rw [primary_of_opening ((Simulation.isLeftParen_eq hpair).trans hopening)]
      apply Simulation.Repeats.deepens
      apply Simulation.Repeats.bind (ih hless other more hcursors)
      intro body after later _ _ hafter
      exact repeats_groupingOperand body hpair hafter
  | chainStatement_of_number hkind hexpression ih =>
      intro larger hbudget longer hcursors
      obtain ⟨larger, rfl, hless⟩ := exists_less hbudget
      obtain ⟨other, more, rfl, -, -, hpair, -⟩ := simulation.next hcursors
      rw [chainStatement_of_number ((simulation.kind_eq hpair).trans hkind)]
      exact ih hless other more hcursors
  | chainStatement_of_opening hopening hbody ih =>
      intro larger hbudget longer hcursors
      obtain ⟨larger, rfl, hless⟩ := exists_less hbudget
      obtain ⟨other, more, rfl, -, -, hpair, -⟩ := simulation.next hcursors
      rw [chainStatement_of_opening ((Simulation.isLeftParen_eq hpair).trans hopening)]
      exact (Simulation.Repeats.deepens (ih hless other more hcursors)).map _
  | chainExpression start hoperand ih =>
      intro larger hbudget other longer hcursors
      obtain ⟨larger, rfl, hless⟩ := exists_less hbudget
      rw [chainExpression_eq_linked]
      exact deepens_linked hcursors fun hplace => ih _ hless _ hplace
  | chainOperand_of_boundary hkind hboundary budget =>
      intro larger hbudget longer hcursors
      obtain ⟨larger, rfl, -⟩ := exists_less hbudget
      obtain ⟨other, more, rfl, -⟩ := simulation.next hcursors
      exact deepens_chainOperand_of_boundary hkind hboundary hcursors
  | chainOperand_of_operator hkind hgoesOn hexpression ih =>
      intro larger hbudget longer hcursors
      obtain ⟨larger, rfl, hless⟩ := exists_less hbudget
      obtain ⟨other, more, rfl, hbehind, -, hpair, -⟩ := simulation.next hcursors
      have hsettled : simulation.Settled _ := fun _ hend => hgoesOn (atBoundary_of_ended hend)
      have hgoesOnToo := mt (Simulation.atBoundary_iff hbehind hsettled).1 hgoesOn
      rw [chainOperand_of_operator ((simulation.kind_eq hpair).trans hkind) hgoesOnToo]
      exact Simulation.Deepens.map (ih hless other more hcursors) _
  | chainOperand_of_opening hopening hbody ih =>
      intro larger hbudget longer hcursors
      obtain ⟨larger, rfl, hless⟩ := exists_less hbudget
      obtain ⟨other, more, rfl, -, -, hpair, -⟩ := simulation.next hcursors
      rw [chainOperand_of_opening ((Simulation.isLeftParen_eq hpair).trans hopening)]
      exact (Simulation.Repeats.deepens (ih hless other more hcursors)).map _

end Production

end Calculator
