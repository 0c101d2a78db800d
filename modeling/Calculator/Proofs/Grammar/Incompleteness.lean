import Calculator.Proofs.Grammar.Ending
import Calculator.Proofs.Grammar.Finality

/-!
# Which texts can be completed

A text that cannot be read is called incomplete if it came to its end too early.
For the right-recursive grammar this says just what it should: the incomplete texts
are those that some continuation turns into a program.  Under precedence every text
that can be completed is incomplete, but the converse fails where an open operand is
crowded, since its statements are counted only when it is closed.  The nesting limit
has to leave room for one more operator than there are tokens.
-/

namespace Calculator

/-! ### Completions as text -/

/-- The text of some lexemes, with a blank before each. -/
def Lexeme.spaced (lexemes : List Lexeme) : List Char :=
  lexemes.flatMap fun lexeme => ' ' :: lexeme.2.toList

namespace Lexer

open CharClass (isWhitespace isDigit continuesNumber)

theorem continuesNumber_head?_spaced (lexemes : List Lexeme) :
    ∀ character ∈ (Lexeme.spaced lexemes).head?, continuesNumber character = false := by
  cases lexemes with
  | nil => simp [Lexeme.spaced]
  | cons lexeme others =>
      intro character hhead
      obtain rfl : ' ' = character := by simpa [Lexeme.spaced] using hhead
      decide

theorem map_tokens_of_finishes {lexeme : Lexeme} (hfinishes : lexeme.Finishes) (offset : Nat) :
    (⟨lexeme.2.toList, offset⟩ : Lexer).tokens.map Token.lexeme = [lexeme] := by
  rcases hfinishes with rfl | rfl | rfl
  · have hdigit : isDigit '1' = true := by decide
    change (⟨['1'], offset⟩ : Lexer).tokens.map Token.lexeme = _
    rw [tokens_cons_of_isDigit _ _ hdigit, List.dropWhile_nil, tokens_nil]
    rfl
  · have hsingle : isWhitespace '+' = false ∧ isDigit '+' = false := by decide
    change (⟨['+'], offset⟩ : Lexer).tokens.map Token.lexeme = _
    rw [tokens_cons_of_single _ _ hsingle.1 hsingle.2, tokens_nil]
    rfl
  · have hsingle : isWhitespace ')' = false ∧ isDigit ')' = false := by decide
    change (⟨[')'], offset⟩ : Lexer).tokens.map Token.lexeme = _
    rw [tokens_cons_of_single _ _ hsingle.1 hsingle.2, tokens_nil]
    rfl

/-- Blanks keep the lexemes apart. -/
theorem map_tokens_spaced {lexemes : List Lexeme}
    (hfinishes : ∀ lexeme ∈ lexemes, lexeme.Finishes) (offset : Nat) :
    (⟨Lexeme.spaced lexemes, offset⟩ : Lexer).tokens.map Token.lexeme = lexemes := by
  induction lexemes generalizing offset with
  | nil => simp [Lexeme.spaced]
  | cons lexeme others ih =>
      have hblank : isWhitespace ' ' = true := by decide
      have hspaced : Lexeme.spaced (lexeme :: others) =
          ' ' :: (lexeme.2.toList ++ Lexeme.spaced others) := rfl
      rw [hspaced, tokens_cons_of_isWhitespace _ _ hblank,
        tokens_append _ _ (continuesNumber_head?_spaced others), List.map_append,
        map_tokens_of_finishes (hfinishes lexeme List.mem_cons_self),
        ih fun other hother => hfinishes other (List.mem_cons_of_mem _ hother)]
      rfl

end Lexer

theorem map_tokenize_append_spaced (source : String) {more : List Lexeme}
    (hmore : ∀ lexeme ∈ more, lexeme.Finishes) :
    (tokenize (source ++ String.ofList (Lexeme.spaced more))).map Token.lexeme =
      (tokenize source).map Token.lexeme ++ more := by
  rw [tokenize, tokenize, Lexer.ofSource, Lexer.ofSource, String.toList_append,
    String.toList_ofList, Lexer.tokens_append _ _ (Lexer.continuesNumber_head?_spaced more),
    List.map_append, Lexer.map_tokens_spaced hmore]

/-! ### Readers -/

namespace Reader

variable {source : String} {grammar : Grammar} {limit : Nat} {error : SyntaxError}

/-- What completes the lexemes of a source completes the source, and is not too deep
since each token adds at most one level. -/
theorem exists_program_of_completesEach {body : List Statement} {more : List Lexeme}
    (hcompletes : CompletesEach grammar body ((tokenize source).map Token.lexeme) more)
    (htokens : (tokenize source).length < limit) :
    ∃ text program, ({ Reader.ofSource (source ++ text) with grammar, limit } : Reader).program =
      .ok program := by
  have htext := map_tokenize_append_spaced source hcompletes.finishing.finishes
  have hlexemes : Program.lexemes ⟨body⟩ = (tokenize source).map Token.lexeme ++ more :=
    hcompletes.lexemes_eq
  have hdepth : Program.depth ⟨body⟩ ≤ limit := by
    calc
      Program.depth ⟨body⟩ ≤ (Program.lexemes ⟨body⟩).countP Lexeme.nests :=
        Statement.greatestDepth_le_countP body
      _ = ((tokenize source).map Token.lexeme).countP Lexeme.nests +
          more.countP Lexeme.nests := by
        rw [hlexemes, List.countP_append]
      _ ≤ ((tokenize source).map Token.lexeme).length + 1 :=
        Nat.add_le_add List.countP_le_length hcompletes.finishing.nests
      _ ≤ limit := by
        rw [List.length_map]
        exact htokens
  refine ⟨String.ofList (Lexeme.spaced more), ⟨body⟩, ?_⟩
  apply Reader.program_of_lexemes
  · exact hlexemes.trans htext.symm
  · exact hcompletes.canonical
  · exact hdepth

theorem ended_of_error {reader : Reader} (hfailed : reader.program = .error error)
    (hkind : error.kind = .unexpectedEnding) : reader.outcome.Ended := by
  rcases Reader.exists_problem_of_error hfailed with
    ⟨problem, stop, houtcome, rfl⟩ | ⟨-, hcut⟩
  · rw [Problem.kind_error] at hkind
    cases problem with
    | ended expected => exact ⟨expected, stop, houtcome⟩
    | unexpected expected found => simp [Problem.kind] at hkind
    | ambiguous literal => simp [Problem.kind] at hkind
    | tooDeep token => simp [Problem.kind] at hkind
  · simp [hcut] at hkind

/-- A source that ended too early can be completed, unless an operand is crowded. -/
theorem exists_completion (htokens : (tokenize source).length < limit)
    (hfailed : ({ Reader.ofSource source with grammar, limit } : Reader).program = .error error)
    (hkind : error.kind = .unexpectedEnding) :
    (∃ more program, ({ Reader.ofSource (source ++ more) with grammar, limit } : Reader).program =
      .ok program) ∨ Production.Spoiled grammar ((tokenize source).map Token.lexeme) := by
  rcases Production.completes_of_program (Reader.ended_of_error hfailed hkind) with
    ⟨body, more, hcompletes⟩ | hspoiled
  · exact .inl (exists_program_of_completesEach hcompletes htokens)
  · exact .inr hspoiled

/-- No start of a program is crowded. -/
theorem crowded_eq_false_of_program {more : String} {program : Program}
    (hprogram : ({ Reader.ofSource (source ++ more) with grammar := .precedence, limit } :
      Reader).program = .ok program) :
    (Outline.ofLexemes ((tokenize source).map Token.lexeme)).crowded = false := by
  obtain ⟨hlexemes, hcanonical, -⟩ := Reader.lexemes_of_program hprogram
  have hfree := Program.crowded_eq_false hcanonical
  rw [hlexemes] at hfree
  cases hcrowded : (Outline.ofLexemes ((tokenize source).map Token.lexeme)).crowded with
  | false => rfl
  | true =>
      have hlonger :=
        Outline.crowded_of_continued (continued_tokenize_append source more) hcrowded
      exact absurd (hfree.symm.trans hlonger) Bool.false_ne_true

end Reader

/-- Under precedence, a source that cannot be read can be completed exactly if it is
incomplete and no operand in it is crowded. -/
theorem precedence_completable_iff (source : String) (limit : Nat) (error : SyntaxError)
    (htokens : (tokenize source).length < limit)
    (hfailed : ({ Reader.ofSource source with grammar := .precedence, limit } : Reader).program =
      .error error) :
    (∃ more program, ({ Reader.ofSource (source ++ more) with grammar := .precedence, limit } :
        Reader).program = .ok program) ↔
      error.isIncomplete = true ∧
        (Outline.ofLexemes ((tokenize source).map Token.lexeme)).crowded = false := by
  constructor
  · rintro ⟨more, program, hprogram⟩
    have hkind := Reader.kind_of_program_append hfailed hprogram
    exact ⟨decide_eq_true hkind, Reader.crowded_eq_false_of_program hprogram⟩
  · rintro ⟨hincomplete, hcrowded⟩
    apply (Reader.exists_completion htokens hfailed (of_decide_eq_true hincomplete)).resolve_right
    rintro ⟨-, hcrowds⟩
    exact Bool.false_ne_true (hcrowded.symm.trans (hcrowds _))

/-- In `1+((2*3 4` both groupings are open, but the one that is an operand has begun
its first statement only, so that it can be completed. -/
theorem precedence_completable_of_open_operand :
    (tokenize "1+((2*3 4").length < 9 ∧
      ∃ error, ({ Reader.ofSource "1+((2*3 4" with grammar := .precedence, limit := 9 } :
          Reader).program = .error error ∧
        ∃ more program, ({ Reader.ofSource ("1+((2*3 4" ++ more) with
          grammar := .precedence, limit := 9 } : Reader).program = .ok program := by
  have houtcome : ({ Reader.ofSource "1+((2*3 4" with grammar := .precedence, limit := 9 } :
      Reader).outcome = .failed (.ended .operator) ⟨[], 2⟩ := by
    cbv
  have hfailed := Reader.program_of_failed houtcome
  have htokens : (tokenize "1+((2*3 4").length < 9 := by cbv
  exact ⟨htokens, _, hfailed,
    (precedence_completable_iff _ _ _ htokens hfailed).2 ⟨rfl, by cbv⟩⟩

/-- The text `1+(1+2 3+4` is reported as incomplete, but the operand in it already
holds a second statement and no continuation can be read. -/
theorem precedence_incomplete_without_completion :
    (tokenize "1+(1+2 3+4").length < 256 ∧
      ∃ error, ({ Reader.ofSource "1+(1+2 3+4" with grammar := .precedence, limit := 256 } :
          Reader).program = .error error ∧ error.isIncomplete = true ∧
        ∀ more program, ({ Reader.ofSource ("1+(1+2 3+4" ++ more) with
          grammar := .precedence, limit := 256 } : Reader).program ≠ .ok program := by
  have houtcome : ({ Reader.ofSource "1+(1+2 3+4" with grammar := .precedence, limit := 256 } :
      Reader).outcome = .failed (.ended (.closing ⟨.parenthesis, "(", 2⟩)) ⟨[], 1⟩ := by
    cbv
  have hcrowded :
      (Outline.ofLexemes ((tokenize "1+(1+2 3+4").map Token.lexeme)).crowded = true := by
    cbv
  refine ⟨by cbv, _, Reader.program_of_failed houtcome, rfl, ?_⟩
  intro more program hprogram
  have hfree := Reader.crowded_eq_false_of_program hprogram
  exact Bool.false_ne_true (hfree.symm.trans hcrowded)

/-- The right-recursive grammar: a source ends unexpectedly exactly if it cannot be
read as it is, but with some text appended to it. -/
theorem rightRecursive_unexpectedEnding_iff (source : String) (limit : Nat)
    (htokens : (tokenize source).length < limit) :
    (∃ error, ({ Reader.ofSource source with grammar := .rightRecursive, limit } :
        Reader).program = .error error ∧ error.kind = .unexpectedEnding) ↔
      (∀ program, ({ Reader.ofSource source with grammar := .rightRecursive, limit } :
        Reader).program ≠ .ok program) ∧
      ∃ more program, ({ Reader.ofSource (source ++ more) with
        grammar := .rightRecursive, limit } : Reader).program = .ok program := by
  constructor
  · rintro ⟨error, hfailed, hkind⟩
    refine ⟨?_, ?_⟩
    · intro program hprogram
      rw [hfailed] at hprogram
      cases hprogram
    · apply (Reader.exists_completion htokens hfailed hkind).resolve_right
      rintro ⟨hprecedence, -⟩
      cases hprecedence
  · rintro ⟨hunread, more, program, hprogram⟩
    cases hfailed : ({ Reader.ofSource source with grammar := .rightRecursive, limit } :
        Reader).program with
    | ok other => exact absurd hfailed (hunread other)
    | error error => exact ⟨error, rfl, Reader.kind_of_program_append hfailed hprogram⟩

/-- In `1*(2-3 4` a second statement has only its number, which an operator and an
operand can complete. -/
theorem rightRecursive_unexpectedEnding_of_lone_number :
    (tokenize "1*(2-3 4").length < 8 ∧
      ∃ more program, ({ Reader.ofSource ("1*(2-3 4" ++ more) with
        grammar := .rightRecursive, limit := 8 } : Reader).program = .ok program := by
  have houtcome : ({ Reader.ofSource "1*(2-3 4" with grammar := .rightRecursive, limit := 8 } :
      Reader).outcome = .failed (.ended .operator) ⟨[], 3⟩ := by
    cbv
  have htokens : (tokenize "1*(2-3 4").length < 8 := by cbv
  have hended := (rightRecursive_unexpectedEnding_iff "1*(2-3 4" 8 htokens).1
    ⟨_, Reader.program_of_failed houtcome, rfl⟩
  exact ⟨htokens, hended.2⟩

end Calculator
