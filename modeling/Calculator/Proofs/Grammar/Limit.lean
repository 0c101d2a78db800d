import Calculator.Proofs.Grammar.Acceptance
import Calculator.Proofs.Grammar.Lockstep

/-!
# Reading under a higher limit

The same tokens are read twice, the second time under a limit that is no lower and
with a budget that is no smaller.  The second reading follows the first up to the
first step that is forbidden to the stricter of them, where that one ends for good.
A lower limit therefore only ever turns an outcome into a failure of depth, and a
smaller budget only ever cuts a reading off.
-/

namespace Calculator

/-! ### Outcomes -/

/-- The first outcome is that of the stricter reading.  It is the same as the second
unless the budget was used up or, with a `lower` limit, something was too deep. -/
inductive Outcome.Follows {α : Type} (lower : Prop) : Outcome α → Outcome α → Prop where
  | same (outcome : Outcome α) : Follows lower outcome outcome
  | exhausted (loose : Outcome α) : Follows lower .exhausted loose
  | tooDeep (hlower : lower) (token : Token) (stop : Cursor) (loose : Outcome α) :
      Follows lower (.failed (.tooDeep token) stop) loose

theorem Outcome.Follows.map {α β : Type} {lower : Prop} {strict loose : Outcome α}
    (transform : α → β) (hfollows : Follows lower strict loose) :
    Follows lower (strict.map transform) (loose.map transform) := by
  cases hfollows with
  | same => exact same _
  | exhausted => exact exhausted _
  | tooDeep hlower token stop => exact tooDeep hlower token stop _

theorem Problem.Corresponds.eq {problem other : Problem}
    (hproblem : problem.Corresponds Eq other) : other = problem := by
  cases hproblem with
  | ended => rfl
  | ambiguous hpair | unexpected _ hpair | unclosed hpair | tooDeep hpair => rw [hpair]

namespace Simulation

variable {grammar : Grammar} {limit higher : Nat}

/-- The same tokens under a limit that is no lower. -/
def raising (grammar : Grammar) (hlimit : limit ≤ higher) :
    Simulation ⟨grammar, limit⟩ ⟨grammar, higher⟩ where
  mayGoOn := False
  tokens := Eq
  cursors := Eq
  rules := ⟨rfl, hlimit⟩
  kind_eq := fun hpair => hpair ▸ rfl
  text_eq := fun hpair _ => hpair ▸ rfl
  dots_le := fun hpair => Nat.le_of_eq (congrArg Token.dots hpair)
  next := fun hcursors => ⟨_, _, hcursors.symm, rfl, rfl, rfl, fun _ => rfl⟩
  ended := fun hcursors hend => .inr (hcursors ▸ hend)
  goneOn := False.elim
  nest := fun hcursors => hcursors ▸ rfl
  unnest := congrArg Cursor.unnest

/-- Nothing follows the end of the same tokens, so the two readings differ in nothing but
what the stricter one forbids. -/
theorem follows_of_binds {α : Type} {hlimit : limit ≤ higher} {strict loose : Outcome α}
    (hbinds : (raising grammar hlimit).Binds (raising grammar hlimit).Completed strict loose) :
    Outcome.Follows (limit < higher) strict loose := by
  cases strict with
  | ok value after =>
      obtain ⟨later, rfl, rfl⟩ := hbinds.resolve_left id
      exact .same _
  | failed problem stop =>
      cases hbinds with
      | again hproblem hstop =>
          rw [hproblem.eq, ← hstop]
          exact .same _
      | raised hlower token => exact .tooDeep hlower token stop loose
      | goneOn hmore | hopeless hmore => exact hmore.elim
  | exhausted => exact .exhausted loose

end Simulation

namespace Production

open Outcome (Follows)

variable {limit higher budget larger : Nat}

theorem follows_openBody (grammar : Grammar) (hlimit : limit ≤ higher) (hbudget : budget ≤ larger)
    (cursor : Cursor) :
    Follows (limit < higher) (openBody (statement ⟨grammar, limit⟩ budget) cursor)
      (openBody (statement ⟨grammar, higher⟩ larger) cursor) := by
  have hdescent := descent ⟨grammar, limit⟩ budget .openBody cursor
  have hfollows := follows_of_descent (.raising grammar hlimit) hdescent hbudget
  exact Simulation.follows_of_binds (hfollows cursor rfl)

theorem follows_program (grammar : Grammar) (hlimit : limit ≤ higher) (tokens : List Token) :
    Follows (limit < higher) (program ⟨grammar, limit⟩ tokens)
      (program ⟨grammar, higher⟩ tokens) := by
  have hbudget : budgetFor limit ≤ budgetFor higher := by
    rw [budgetFor, budgetFor]
    omega
  apply Follows.map
  exact follows_openBody grammar hlimit hbudget _

end Production

/-! ### Readers -/

/-- The limit shows only in the message of a failure of depth. -/
theorem Problem.error_of_kind_ne {problem : Problem} (hkind : problem.kind ≠ .nestingTooDeep)
    (limit higher finish : Nat) (source : Option String) :
    problem.error limit finish source = problem.error higher finish source := by
  cases problem with
  | ambiguous literal => rfl
  | unexpected expected found => rfl
  | ended expected => rfl
  | tooDeep token => exact absurd rfl hkind

namespace Reader

/-- Something nests more deeply than the limit of the reader allows. -/
def TooDeep (reader : Reader) : Prop :=
  ∃ error, reader.program = .error error ∧ error.kind = .nestingTooDeep

theorem tooDeep_of_failed {reader : Reader} {problem : Problem} {stop : Cursor}
    (houtcome : reader.outcome = .failed problem stop) (hkind : problem.kind = .nestingTooDeep) :
    reader.TooDeep :=
  ⟨_, program_of_failed houtcome, (problem.kind_error _ _ _).trans hkind⟩

theorem tooDeep_of_exhausted {reader : Reader} (houtcome : reader.outcome = .exhausted) :
    reader.TooDeep :=
  ⟨_, program_of_exhausted houtcome, rfl⟩

theorem TooDeep.program_ne_ok {reader : Reader} (hdeep : reader.TooDeep) (program : Program) :
    reader.program ≠ .ok program := by
  obtain ⟨error, herror, -⟩ := hdeep
  simp [herror]

variable (reader : Reader) {higher : Nat}

/-- A reader returns what it returns under a higher limit, program or error, unless
something is too deep for it. -/
theorem tooDeep_or_program_eq (hlimit : reader.limit ≤ higher) :
    reader.TooDeep ∨ reader.program = ({ reader with limit := higher } : Reader).program := by
  have hfollows : Outcome.Follows (reader.limit < higher) reader.outcome
      ({ reader with limit := higher } : Reader).outcome :=
    Production.follows_program reader.grammar hlimit reader.tokens
  generalize hstrict : reader.outcome = strict at hfollows
  generalize hloose : ({ reader with limit := higher } : Reader).outcome = loose at hfollows
  cases hfollows with
  | exhausted => exact .inl (tooDeep_of_exhausted hstrict)
  | tooDeep _ token stop => exact .inl (tooDeep_of_failed hstrict rfl)
  | same =>
      cases strict with
      | ok value after =>
          right
          simp only [program, read, hstrict, hloose]
      | failed problem stop =>
          by_cases hkind : problem.kind = .nestingTooDeep
          · exact .inl (tooDeep_of_failed hstrict hkind)
          · right
            rw [program_of_failed hstrict, program_of_failed hloose]
            exact congrArg Except.error (Problem.error_of_kind_ne hkind _ _ _ _)
      | exhausted => exact .inl (tooDeep_of_exhausted hstrict)

/-- A program that can be read under some limit is read under those that are not
below its depth. -/
theorem program_of_depth_le {program : Program} (hread : reader.program = .ok program)
    (hdepth : program.depth ≤ higher) :
    ({ reader with limit := higher } : Reader).program = .ok program := by
  obtain ⟨hlexemes, hcanonical, -⟩ := lexemes_of_program hread
  exact program_of_lexemes hlexemes hcanonical hdepth

/-- Below the depth of a program that can be read under some limit, its tokens are
too deep. -/
theorem tooDeep_of_lt_depth {program : Program} {lower : Nat}
    (hread : reader.program = .ok program) (hdepth : lower < program.depth) :
    ({ reader with limit := lower } : Reader).TooDeep := by
  have hle : lower ≤ max lower program.depth := Nat.le_max_left _ _
  have hhigher : ({ reader with limit := max lower program.depth } : Reader).program =
      .ok program :=
    program_of_depth_le reader hread (Nat.le_max_right _ _)
  rcases tooDeep_or_program_eq { reader with limit := lower } hle with hdeep | hsame
  · exact hdeep
  · -- The program would be read under a limit that it exceeds.
    have hlower := hsame.trans hhigher
    obtain ⟨-, -, hlimit⟩ := lexemes_of_program hlower
    exact absurd hdepth (Nat.not_lt.2 hlimit)

end Reader

/-- The nesting limit only ever adds failures of depth.  Under a higher limit the
same program or the same error is returned, unless the lower one reports that
something nests too deeply; what is too deep for the higher limit is so for the
lower; and tokens that can be read as a program are too deep for the limits below
its depth and for no others. -/
theorem program_of_higher_limit (tokens : List Token) (source : Option String)
    (grammar : Grammar) (limit higher : Nat) (hlimit : limit ≤ higher) :
    let reader (limit : Nat) : Reader := { tokens, source, grammar, limit }
    (¬ (reader limit).TooDeep → (reader limit).program = (reader higher).program) ∧
      ((reader higher).TooDeep → (reader limit).TooDeep) ∧
      ∀ program, (reader higher).program = .ok program → ∀ other,
        ((reader other).TooDeep ↔ other < program.depth) ∧
          ((reader other).program = .ok program ↔ program.depth ≤ other) := by
  intro reader
  have hsame : (reader limit).TooDeep ∨ (reader limit).program = (reader higher).program :=
    (reader limit).tooDeep_or_program_eq hlimit
  refine ⟨hsame.resolve_left, ?_, ?_⟩
  · intro hdeep
    rcases hsame with hlower | hprogram
    · exact hlower
    · rwa [Reader.TooDeep, hprogram]
  · intro program hread other
    have hshallow : program.depth ≤ other → (reader other).program = .ok program :=
      (reader higher).program_of_depth_le hread
    have hdeep : other < program.depth → (reader other).TooDeep :=
      (reader higher).tooDeep_of_lt_depth hread
    constructor
    · constructor
      · intro htooDeep
        apply Nat.lt_of_not_le
        intro hdepth
        exact htooDeep.program_ne_ok program (hshallow hdepth)
      · exact hdeep
    · constructor
      · intro hother
        exact (Reader.lexemes_of_program hother).2.2
      · exact hshallow

/-- The text `1+2*(3-4)` is four levels deep, so a limit of three is exceeded and one
of four is not. -/
theorem program_of_higher_limit_of_four_levels :
    let reader (limit : Nat) : Reader := { Reader.ofSource "1+2*(3-4)" with limit }
    let program : Program :=
      ⟨[.expression .add (.number "1") (.nested (.expression .multiply (.number "2")
        (.nested (.grouping [.expression .subtract (.number "3") (.number "4")]))))]⟩
    3 ≤ 9 ∧ (reader 9).program = .ok program ∧ (reader 3).TooDeep ∧ ¬ (reader 4).TooDeep ∧
      (reader 4).program = .ok program := by
  intro reader program
  have hread : (reader 9).program = .ok program := by cbv
  have hdepth : program.depth = 4 := by decide
  obtain ⟨-, -, hlimits⟩ := program_of_higher_limit (tokenize "1+2*(3-4)") (some "1+2*(3-4)")
    .precedence 3 9 (by decide)
  refine ⟨by decide, hread, ?_, ?_, ?_⟩
  · exact (hlimits program hread 3).1.2 (by omega)
  · intro hdeep
    have hbelow := (hlimits program hread 4).1.1 hdeep
    omega
  · exact (hlimits program hread 4).2.2 (by omega)

end Calculator
