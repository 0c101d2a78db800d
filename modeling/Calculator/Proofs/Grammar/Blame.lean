import Calculator.Proofs.Grammar.Relocation
import Calculator.Proofs.Grammar.Stopping
import Mathlib

/-!
# What an error points at

An error of a source is placed by an offset, from which its line, its column and its
excerpt are taken.  The offset is that of the token which is blamed, or of the end of
the source if the tokens have run out.  The token is the one at which reading stopped
or an earlier one, and which of them it can be is known by the kind of the error.
Numbers are blamed in the order in which they are read: the first one that has a
second dot is not passed.
-/

namespace Calculator

/-- The token is a number with more than one dot. -/
def Token.isAmbiguous (token : Token) : Bool :=
  token.kind = .number && 1 < token.dots

theorem Token.isAmbiguous_eq_false {token : Token} (hdots : token.kind = .number → token.dots ≤ 1) :
    token.isAmbiguous = false := by
  by_cases hkind : token.kind = .number
  · simp [isAmbiguous, hdots hkind]
  · simp [isAmbiguous, hkind]

/-- A token at an index can be blamed by an error of a kind, in a reading that stopped
at a later index or at the same one. -/
structure ErrorKind.Blames (kind : ErrorKind) (tokens : List Token) (stop index : Nat) : Prop where
  reached : index ≤ stop
  ambiguous : kind = .lexicalAmbiguity →
    index = stop ∧ tokens.findIdx? Token.isAmbiguous = some index
  unexpected : kind = .unexpectedToken → index = stop ∨
    CrowdedOperand (tokens.take index) ((tokens.take stop).drop index) (tokens.drop stop)

namespace ErrorKind.Blames

variable {tokens : List Token} {stop index : Nat}

theorem ambiguous_next (hfirst : tokens.findIdx? Token.isAmbiguous = some stop) :
    lexicalAmbiguity.Blames tokens stop stop :=
  ⟨Nat.le_refl _, fun _ => ⟨rfl, hfirst⟩, nofun⟩

theorem unexpected_next : unexpectedToken.Blames tokens stop stop :=
  ⟨Nat.le_refl _, nofun, fun _ => .inl rfl⟩

theorem unexpected_operand (hreached : index ≤ stop)
    (hcrowded : CrowdedOperand (tokens.take index) ((tokens.take stop).drop index)
      (tokens.drop stop)) : unexpectedToken.Blames tokens stop index :=
  ⟨hreached, nofun, fun _ => .inr hcrowded⟩

theorem tooDeep (hreached : index ≤ stop) : nestingTooDeep.Blames tokens stop index :=
  ⟨hreached, nofun, nofun⟩

end ErrorKind.Blames

/-- An error is placed in its source: at the end if the tokens have run out, else at a
token that can be blamed. -/
structure SyntaxError.PointsInto (source : String) (tokens : List Token) (stop : Nat)
    (error : SyntaxError) : Prop where
  position : error.position = some (Position.ofOffset source error.offset)
  excerpt : error.excerpt.isSome = true
  ending : error.kind = .unexpectedEnding → stop = tokens.length ∧ error.offset = source.length
  token : error.kind ≠ .unexpectedEnding → ∃ index token, tokens[index]? = some token ∧
    error.offset = token.start ∧ error.kind.Blames tokens stop index

/-! ### Problems -/

namespace Problem

variable {passed rest : List Token} {problem : Problem}

/-- The token that is blamed. -/
def culprit? : Problem → Option Token
  | ambiguous literal => some literal
  | unexpected _ found => some found
  | ended _ => none
  | tooDeep token => some token

theorem exists_culprit (hkind : problem.kind ≠ .unexpectedEnding) :
    ∃ token, problem.culprit? = some token := by
  cases problem with
  | ended expected => exact absurd rfl hkind
  | _ => exact ⟨_, rfl⟩

theorem position_error (problem : Problem) (limit finish : Nat) (source : String) :
    (problem.error limit finish (some source)).position =
      some (Position.ofOffset source (problem.error limit finish (some source)).offset) := by
  cases problem <;> rfl

/-- How many characters are blamed. -/
def span (problem : Problem) : Nat :=
  (problem.culprit?.map Token.length).getD 0

theorem excerpt_error (problem : Problem) (limit finish : Nat) (source : String) :
    (problem.error limit finish (some source)).excerpt =
      some (excerpt source (problem.error limit finish (some source)).offset problem.span) := by
  cases problem <;> rfl

theorem offset_error {token : Token} (hculprit : problem.culprit? = some token)
    (limit finish : Nat) (source : Option String) :
    (problem.error limit finish source).offset = token.start := by
  cases problem with
  | ended expected => exact absurd hculprit (by simp [culprit?])
  | _ =>
      obtain rfl := Option.some.inj hculprit
      rfl

theorem offset_error_of_ended (hkind : problem.kind = .unexpectedEnding) (limit finish : Nat)
    (source : Option String) : (problem.error limit finish source).offset = finish := by
  cases problem with
  | ended expected => rfl
  | _ => cases hkind

/-- A number behind tokens that have no second dot is the first that has one. -/
theorem findIdx?_append_of_ambiguous {literal : Token}
    (hnumbers : ∀ token ∈ passed, token.kind = .number → token.dots ≤ 1)
    (hnext : rest.head? = some literal) (hkind : literal.kind = .number)
    (hdots : 1 < literal.dots) :
    (passed ++ rest).findIdx? Token.isAmbiguous = some passed.length := by
  obtain ⟨tail, rfl⟩ := List.head?_eq_some_iff.1 hnext
  have hpassed : passed.findIdx? Token.isAmbiguous = none := by
    apply List.findIdx?_eq_none_iff.2
    intro token hmem
    exact Token.isAmbiguous_eq_false (hnumbers token hmem)
  have hliteral : literal.isAmbiguous = true := by simp [Token.isAmbiguous, hkind, hdots]
  rw [List.findIdx?_append, hpassed, List.findIdx?_cons, hliteral, if_pos rfl, Option.map_some,
    Nat.zero_add]
  rfl

/-- Whatever is blamed stands at an index where it can be blamed. -/
theorem MetAt.exists_index (hmet : problem.MetAt passed rest) {token : Token}
    (hnumbers : ∀ token ∈ passed, token.kind = .number → token.dots ≤ 1)
    (hculprit : problem.culprit? = some token) :
    ∃ index, (passed ++ rest)[index]? = some token ∧
      problem.kind.Blames (passed ++ rest) passed.length index := by
  have hnext {next : Token} (hhead : rest.head? = some next) :
      (passed ++ rest)[passed.length]? = some next := by
    rw [← List.head?_drop, List.drop_left, hhead]
  cases hmet with
  | ambiguous hhead hkind hdots =>
      obtain rfl := Option.some.inj hculprit
      have hfirst := findIdx?_append_of_ambiguous hnumbers hhead hkind hdots
      exact ⟨passed.length, hnext hhead, .ambiguous_next hfirst⟩
  | unexpected expected hhead =>
      obtain rfl := Option.some.inj hculprit
      exact ⟨passed.length, hnext hhead, .unexpected_next⟩
  | @crowded before inner opening hpassed hcrowded =>
      obtain rfl := Option.some.inj hculprit
      refine ⟨before.length, ?_, .unexpected_operand ?_ ?_⟩
      · rw [hpassed, List.append_assoc, ← List.head?_drop, List.drop_left]
        rfl
      · rw [hpassed, List.length_append]
        exact Nat.le_add_right _ _
      · rw [List.take_left, List.drop_left, hpassed, List.drop_left, List.append_assoc,
          List.take_left]
        exact hcrowded
  | ended expected hend => exact absurd hculprit (by simp [culprit?])
  | tooDeep hblamed =>
      obtain rfl := Option.some.inj hculprit
      rcases hblamed with hmem | hhead
      · obtain ⟨index, hindex⟩ := List.mem_iff_getElem?.1 hmem
        obtain ⟨hbelow, -⟩ := List.getElem?_eq_some_iff.1 hindex
        refine ⟨index, ?_, .tooDeep (Nat.le_of_lt hbelow)⟩
        rw [List.getElem?_append_left hbelow, hindex]
      · exact ⟨passed.length, hnext hhead, .tooDeep (Nat.le_refl _)⟩

theorem MetAt.eq_nil_of_ended (hmet : problem.MetAt passed rest)
    (hkind : problem.kind = .unexpectedEnding) : rest = [] := by
  cases hmet with
  | ended expected hend => exact hend
  | _ => cases hkind

end Problem

/-! ### Readers -/

namespace Reader

variable {reader : Reader} {error : SyntaxError}

theorem stopped_of_failed {problem : Problem} {stop : Cursor}
    (houtcome : reader.outcome = .failed problem stop) : reader.read.2.stopped = stop := by
  rw [read, houtcome]

/-- An error comes from a problem that is met where the reading stopped. -/
theorem exists_met_of_error (hfailed : reader.program = .error error) :
    ∃ (problem : Problem) (passed : List Token),
      error = problem.error reader.limit reader.finish reader.source ∧
      reader.read.2.stopped.Past reader.tokens passed ∧
      problem.MetAt passed reader.read.2.stopped.rest := by
  have hstops : reader.outcome.StopsIn reader.tokens [] := Production.stopsIn_program _ _
  rcases exists_problem_of_error hfailed with ⟨problem, stop, houtcome, herror⟩ | ⟨hcut, -⟩
  · rw [houtcome] at hstops
    rw [stopped_of_failed houtcome]
    cases hstops with
    | failed passed hpast hmet => exact ⟨problem, passed, herror, hpast, hmet⟩
  · exact absurd hcut (Production.program_ne_exhausted _ _)

/-- A reading that succeeds has passed all tokens. -/
theorem dots_le_of_program {program : Program} {token : Token}
    (hprogram : reader.program = .ok program) (hmem : token ∈ reader.tokens)
    (hkind : token.kind = .number) : token.dots ≤ 1 := by
  obtain ⟨after, hread⟩ := program_eq_ok_iff.1 hprogram
  have hstops := Production.stopsIn_program reader.rules reader.tokens
  rw [hread] at hstops
  cases hstops with
  | ok passed hpast =>
      have htokens := hpast.split
      rw [Production.eq_end_of_program hread, List.append_nil] at htokens
      rw [← htokens] at hmem
      exact hpast.numbers token hmem hkind

theorem pointsInto_of_error {source : String} (hsource : reader.source = some source)
    (hfailed : reader.program = .error error) :
    ∃ stop ≤ reader.tokens.length, reader.read.2.stopped.rest = reader.tokens.drop stop ∧
      error.PointsInto source reader.tokens stop := by
  obtain ⟨problem, passed, rfl, hpast, hmet⟩ := exists_met_of_error hfailed
  have hkind := problem.kind_error reader.limit reader.finish reader.source
  refine ⟨passed.length, ?_, ?_, ?_⟩
  · rw [← hpast.split, List.length_append]
    exact Nat.le_add_right _ _
  · rw [← hpast.split, List.drop_left]
  · refine ⟨?_, ?_, ?_, ?_⟩
    · rw [hsource]
      exact problem.position_error _ _ _
    · rw [hsource, problem.excerpt_error]
      rfl
    · intro hended
      rw [hkind] at hended
      have hend := hmet.eq_nil_of_ended hended
      refine ⟨by rw [← hpast.split, hend, List.append_nil], ?_⟩
      rw [Problem.offset_error_of_ended hended, finish, hsource]
    · intro hother
      rw [hkind] at hother ⊢
      obtain ⟨token, hculprit⟩ := Problem.exists_culprit hother
      obtain ⟨index, hindex, hblames⟩ := hmet.exists_index hpast.numbers hculprit
      rw [hpast.split] at hindex hblames
      exact ⟨index, token, hindex, Problem.offset_error hculprit _ _ _, hblames⟩

end Reader

/-- Every error of a source points at the right place.  It has the position of its
offset and an excerpt.  If the input has ended, all tokens have been passed and the
offset is that of the end; else it is the offset of a token at which the reading
stopped or which it had passed.  A number is blamed at the place where the reading
stopped and is the first that has a second dot, and so is an unexpected token unless it
opens an operand of several statements.  A source that is read has no such number. -/
theorem error_points_into_source (source : String) (grammar : Grammar) (limit : Nat) :
    let reader : Reader := { Reader.ofSource source with grammar, limit }
    (∀ error, reader.program = .error error →
      ∃ stop ≤ (tokenize source).length,
        reader.read.2.stopped.rest = (tokenize source).drop stop ∧
        error.PointsInto source (tokenize source) stop) ∧
      ∀ program, reader.program = .ok program →
        ∀ token ∈ tokenize source, token.kind = .number → token.dots ≤ 1 := by
  intro reader
  refine ⟨?_, ?_⟩
  · intro error hfailed
    exact Reader.pointsInto_of_error rfl hfailed
  · intro program hprogram token hmem
    exact Reader.dots_le_of_program hprogram hmem

/-- The operand of `2*(1+2 3+4)/5` is blamed at its parenthesis, the reading having
stopped behind it, and the numbers of `1.5+2` have no second dot. -/
theorem error_points_into_source_at_crowded_operand :
    let reader : Reader :=
      { Reader.ofSource "2*(1+2 3+4)/5" with grammar := .precedence, limit := 9 }
    (∃ error, reader.program = .error error ∧ error.kind = .unexpectedToken ∧ error.offset = 2 ∧
      reader.read.2.stopped.rest = (tokenize "2*(1+2 3+4)/5").drop 10 ∧
      ∃ stop ≤ (tokenize "2*(1+2 3+4)/5").length,
        reader.read.2.stopped.rest = (tokenize "2*(1+2 3+4)/5").drop stop ∧
        error.PointsInto "2*(1+2 3+4)/5" (tokenize "2*(1+2 3+4)/5") stop) ∧
    ∃ program, ({ Reader.ofSource "1.5+2" with grammar := .rightRecursive, limit := 1 } :
        Reader).program = .ok program ∧
      ∀ token ∈ tokenize "1.5+2", token.kind = .number → token.dots ≤ 1 := by
  intro reader
  have houtcome : reader.outcome = .failed (.unexpected .singleExpression ⟨.parenthesis, "(", 2⟩)
      ⟨[⟨.operator, "/", 11⟩, ⟨.number, "5", 12⟩], 0⟩ := by
    cbv
  have hfailed := Reader.program_of_failed houtcome
  have hstopped : reader.read.2.stopped.rest = (tokenize "2*(1+2 3+4)/5").drop 10 := by
    rw [Reader.stopped_of_failed houtcome]
    cbv
  have hread : ({ Reader.ofSource "1.5+2" with grammar := .rightRecursive, limit := 1 } :
      Reader).program = .ok ⟨[.expression .add (.number "1.5") (.number "2")]⟩ := by
    cbv
  refine ⟨⟨_, hfailed, rfl, rfl, hstopped, ?_⟩, _, hread, ?_⟩
  · exact (error_points_into_source "2*(1+2 3+4)/5" .precedence 9).1 _ hfailed
  · exact (error_points_into_source "1.5+2" .rightRecursive 1).2 _ hread

end Calculator
