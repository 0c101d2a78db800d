import Calculator.Proofs.Grammar.Descent
import Calculator.Proofs.Token.Append
import Mathlib

/-!
# Failures that are final

The reading of a text continued follows that of the text up to the end of the
shorter one.  A failure met before the end is therefore met again, and one of depth
or of a second dot cannot be undone by anything that follows.  Only the end of the
text is a reason to fail that more text can remove.
-/

namespace Calculator

/-! ### Tokens of a text and of the text continued -/

/-- The token may be the start of a number whose text goes on. -/
structure Token.GrowsInto (token other : Token) : Prop where
  kind : other.kind = token.kind
  start : other.start = token.start
  dots : token.dots ≤ other.dots
  same : token.kind ≠ .number → other = token

theorem Token.GrowsInto.refl (token : Token) : token.GrowsInto token :=
  ⟨rfl, rfl, Nat.le_refl _, fun _ => rfl⟩

/-- Only the last token of a text can have grown. -/
theorem Continued.exists_cons {token : Token} {tail longer : List Token}
    (hcontinued : Continued (token :: tail) longer) :
    ∃ other more, longer = other :: more ∧ Continued tail more ∧ token.GrowsInto other ∧
      (tail ≠ [] → other = token) := by
  cases hcontinued with
  | grown more hlast hkind hstart hdots =>
      refine ⟨_, more, rfl, Continued.nil more, ⟨?_, hstart, hdots, ?_⟩, by simp⟩
      · rw [hkind, hlast]
      · exact fun hother => absurd hlast hother
  | cons _ hrest => exact ⟨token, _, rfl, hrest, Token.GrowsInto.refl token, fun _ => rfl⟩

/-- Two cursors at the same place, one in a text and one in the text continued.  At
the end of the text the second may have gone on. -/
structure Cursor.Matches (cursor longer : Cursor) : Prop where
  tokens : Continued cursor.rest longer.rest
  nesting : cursor.rest ≠ [] → longer.nesting = cursor.nesting

/-- In front of a token the text continued has the same one, unless it is the last. -/
theorem Cursor.Matches.exists_before {cursor longer : Cursor} {token : Token}
    (hmatches : (cursor.before token).Matches longer) :
    ∃ other behind, longer = Cursor.before behind other ∧ cursor.Matches behind ∧
      behind.nesting = cursor.nesting ∧ token.GrowsInto other ∧
      (cursor.rest ≠ [] → other = token) := by
  obtain ⟨rest, nesting⟩ := longer
  obtain ⟨other, more, hrest, htail, hgrows, hsame⟩ := hmatches.tokens.exists_cons
  obtain rfl : rest = other :: more := hrest
  have hnesting : nesting = cursor.nesting := hmatches.nesting (List.cons_ne_nil _ _)
  exact ⟨other, ⟨more, nesting⟩, rfl, ⟨htail, fun _ => hnesting⟩, hnesting, hgrows, hsame⟩

/-- The same rules for a text and for the text continued. -/
def Simulation.continuation (rules : Rules) : Simulation rules rules where
  mayGoOn := True
  tokens := Token.GrowsInto
  cursors := Cursor.Matches
  rules := .refl rules
  kind_eq := Token.GrowsInto.kind
  text_eq := fun hgrows hkind => congrArg Token.text (hgrows.same hkind)
  dots_le := Token.GrowsInto.dots
  next := fun hmatches => by
    obtain ⟨other, more, rfl, hbehind, hnesting, hgrows, hsame⟩ := hmatches.exists_before
    exact ⟨other, more, rfl, hbehind, hnesting, hgrows, fun hsettled =>
      congrArg Token.text (hsame (hsettled trivial))⟩
  ended := fun _ _ => .inl trivial
  goneOn := fun _ _ _ hend => ⟨hend ▸ Continued.nil _, fun hmore => absurd hend hmore⟩
  nest := fun hmatches =>
    ⟨hmatches.tokens, fun hmore => congrArg (· + 1) (hmatches.nesting hmore)⟩
  unnest := fun hmatches =>
    ⟨hmatches.tokens, fun hmore => congrArg (· - 1) (hmatches.nesting hmore)⟩

namespace Simulation

variable {rules : Rules} {α : Type} {problem : Problem} {stop : Cursor} {long : Outcome α}

/-- A problem that persists and is not the end of the tokens leaves nothing read. -/
theorem Persists.unread (hpersists : (continuation rules).Persists problem stop long)
    (hkind : problem.kind ≠ .unexpectedEnding) : long.Unread := by
  cases hpersists with
  | again => exact Outcome.unread_failed _ _
  | raised hlower => exact absurd hlower (Nat.lt_irrefl _)
  | goneOn => exact absurd rfl hkind
  | hopeless _ _ _ hunread => exact hunread

/-- A token that is not expected is met again. -/
theorem Persists.exists_unexpected {expected : Expectation} {found : Token}
    (hpersists : (continuation rules).Persists (.unexpected expected found) stop long) :
    ∃ other place, long = .failed (.unexpected expected other) place ∧
      other.start = found.start := by
  cases hpersists with
  | again hproblem hstop =>
      cases hproblem with
      | unexpected _ hgrows => exact ⟨_, _, rfl, hgrows.start⟩
  | hopeless _ hproblem => exact absurd rfl (hproblem expected found)

end Simulation

/-- A program that is not read for a reason other than the end of its tokens is not
read either when they go on. -/
theorem Production.binds_program (rules : Rules) {tokens longer : List Token}
    (hcontinued : Continued tokens longer) :
    (Simulation.continuation rules).Binds (fun _ _ _ => True) (program rules tokens)
      (program rules longer) := by
  have hmatches : (⟨tokens, 0⟩ : Cursor).Matches ⟨longer, 0⟩ := ⟨hcontinued, fun _ => rfl⟩
  have hdescent := descent rules (budgetFor rules.limit) .openBody ⟨tokens, 0⟩
  have hbody := follows_of_descent (.continuation rules) hdescent (Nat.le_refl _)
  apply Simulation.Binds.bind (hbody ⟨longer, 0⟩ hmatches)
  intro body after _ _
  trivial

/-! ### Readers -/

theorem Reader.exists_error_of_unread {reader : Reader} (hunread : reader.outcome.Unread) :
    ∃ error, reader.program = .error error := by
  cases houtcome : reader.outcome with
  | ok program cursor => exact absurd houtcome (hunread program cursor)
  | failed problem stop => exact ⟨_, Reader.program_of_failed houtcome⟩
  | exhausted => exact ⟨_, Reader.program_of_exhausted houtcome⟩

/-- What is read of a source binds what is read of it with text appended. -/
theorem Reader.binds_append (source more : String) (rules : Rules) :
    (Simulation.continuation rules).Binds (fun _ _ _ => True)
      ({ Reader.ofSource source with grammar := rules.grammar, limit := rules.limit } :
        Reader).outcome
      ({ Reader.ofSource (source ++ more) with grammar := rules.grammar, limit := rules.limit } :
        Reader).outcome :=
  Production.binds_program rules (continued_tokenize_append source more)

/-- An error comes from a problem, which persists if text is appended. -/
theorem Reader.exists_persists_of_error {source : String} {grammar : Grammar} {limit : Nat}
    {error : SyntaxError}
    (hfailed : ({ Reader.ofSource source with grammar, limit } : Reader).program = .error error)
    (more : String) :
    ∃ problem stop finish, error = problem.error limit finish (some source) ∧
      (Simulation.continuation ⟨grammar, limit⟩).Persists problem stop
        ({ Reader.ofSource (source ++ more) with grammar, limit } : Reader).outcome := by
  have hbinds := Reader.binds_append source more ⟨grammar, limit⟩
  rcases Reader.exists_problem_of_error hfailed with ⟨problem, stop, houtcome, rfl⟩ | ⟨hcut, -⟩
  · rw [houtcome] at hbinds
    exact ⟨problem, stop, _, rfl, hbinds⟩
  · exact absurd hcut (Production.program_ne_exhausted _ _)

/-- Only a text that ended too early can be completed. -/
theorem Reader.kind_of_program_append {source more : String} {grammar : Grammar} {limit : Nat}
    {error : SyntaxError} {program : Program}
    (hfailed : ({ Reader.ofSource source with grammar, limit } : Reader).program = .error error)
    (hmore : ({ Reader.ofSource (source ++ more) with grammar, limit } : Reader).program =
      .ok program) :
    error.kind = .unexpectedEnding := by
  obtain ⟨problem, stop, _, rfl, hpersists⟩ := Reader.exists_persists_of_error hfailed more
  obtain ⟨after, hread⟩ := Reader.program_eq_ok_iff.1 hmore
  by_contra hkind
  rw [Problem.kind_error] at hkind
  exact hpersists.unread hkind program after hread

/-- A failure that is not caused by the end of the text is final.  Whatever is
appended the text cannot be read, and where a token was not expected before, the
token at that place is not expected again. -/
theorem error_of_append (source more : String) (grammar : Grammar) (limit : Nat)
    (error : SyntaxError)
    (hfailed : ({ Reader.ofSource source with grammar, limit } : Reader).program = .error error)
    (hkind : error.kind ≠ .unexpectedEnding) :
    ∃ later, ({ Reader.ofSource (source ++ more) with grammar, limit } : Reader).program =
        .error later ∧
      (error.kind = .unexpectedToken →
        later.kind = .unexpectedToken ∧ later.offset = error.offset) := by
  obtain ⟨problem, stop, _, rfl, hpersists⟩ := Reader.exists_persists_of_error hfailed more
  rw [Problem.kind_error] at hkind
  cases problem with
  | unexpected expected found =>
      obtain ⟨other, place, hlong, hstart⟩ := hpersists.exists_unexpected
      exact ⟨_, Reader.program_of_failed hlong, fun _ => ⟨rfl, hstart⟩⟩
  | ended expected => exact absurd rfl hkind
  | ambiguous literal =>
      obtain ⟨later, hlater⟩ := Reader.exists_error_of_unread (hpersists.unread hkind)
      exact ⟨later, hlater, by simp [Problem.kind_error, Problem.kind]⟩
  | tooDeep token =>
      obtain ⟨later, hlater⟩ := Reader.exists_error_of_unread (hpersists.unread hkind)
      exact ⟨later, hlater, by simp [Problem.kind_error, Problem.kind]⟩

/-- In `2*(1 3` the number `3` is not expected, and it stays so when it grows into
`3.5.7`, although that has a second dot. -/
theorem error_of_append_to_number :
    ∃ error, ({ Reader.ofSource "2*(1 3" with grammar := .rightRecursive, limit := 4 } :
        Reader).program = .error error ∧ error.kind ≠ .unexpectedEnding ∧
      ∃ later, ({ Reader.ofSource ("2*(1 3" ++ ".5.7)") with
          grammar := .rightRecursive, limit := 4 } : Reader).program = .error later ∧
        later.kind = .unexpectedToken ∧ later.offset = error.offset := by
  have houtcome : ({ Reader.ofSource "2*(1 3" with grammar := .rightRecursive, limit := 4 } :
      Reader).outcome = .failed (.unexpected .operator ⟨.number, "3", 5⟩)
        ⟨[⟨.number, "3", 5⟩], 3⟩ := by
    cbv
  have hfailed := Reader.program_of_failed houtcome
  obtain ⟨later, hlater, hsame⟩ := error_of_append _ ".5.7)" _ _ _ hfailed (by decide)
  exact ⟨_, hfailed, by decide, later, hlater, hsame rfl⟩

end Calculator
