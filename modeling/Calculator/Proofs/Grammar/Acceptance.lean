import Calculator.Grammar.Reader
import Calculator.Proofs.Grammar.Chain

/-!
# Which token lists are programs

A reader accepts a token list as a program exactly if the tokens are the written
form of that program, the program is a canonical one of the reader's grammar and
it is not deeper than the limit.  Kinds and texts of the tokens may disagree, and
a source may be attached or not.
-/

namespace Calculator

/-- A reader returns a program when its productions do. -/
theorem Reader.program_eq_ok_iff {reader : Reader} {program : Program} :
    reader.program = .ok program ↔
      ∃ after, Production.program reader.rules reader.tokens = .ok program after := by
  simp only [Reader.program, Reader.read, Reader.outcome]
  cases Production.program reader.rules reader.tokens with
  | ok result cursor => simp
  | failed problem cursor => simp
  | exhausted => simp

theorem Problem.kind_error (problem : Problem) (limit finish : Nat) (source : Option String) :
    (problem.error limit finish source).kind = problem.kind := by
  cases problem <;> rfl

theorem Reader.program_of_failed {reader : Reader} {problem : Problem} {stop : Cursor}
    (houtcome : reader.outcome = .failed problem stop) :
    reader.program = .error (problem.error reader.limit reader.finish reader.source) := by
  rw [Reader.program, Reader.read, houtcome]

theorem Reader.program_of_exhausted {reader : Reader} (houtcome : reader.outcome = .exhausted) :
    reader.program = .error (.located .nestingTooDeep (SyntaxError.nestingMessage reader.limit)
      reader.finish 0 reader.source) := by
  rw [Reader.program, Reader.read, houtcome]

/-- Errors come from problems, or from being cut off, which counts as too deep. -/
theorem Reader.exists_problem_of_error {reader : Reader} {error : SyntaxError}
    (hfailed : reader.program = .error error) :
    (∃ problem stop, reader.outcome = .failed problem stop ∧
      error = problem.error reader.limit reader.finish reader.source) ∨
      reader.outcome = .exhausted ∧ error.kind = .nestingTooDeep := by
  cases houtcome : reader.outcome with
  | ok program cursor => simp [Reader.program, Reader.read, houtcome] at hfailed
  | failed problem stop =>
      rw [Reader.program_of_failed houtcome] at hfailed
      exact .inl ⟨problem, stop, rfl, (Except.error.inj hfailed).symm⟩
  | exhausted =>
      rw [Reader.program_of_exhausted houtcome] at hfailed
      obtain rfl := Except.error.inj hfailed
      exact .inr ⟨rfl, rfl⟩

/-- Under either grammar, what a reader returns is written in its tokens. -/
theorem Reader.lexemes_of_program {reader : Reader} {program : Program}
    (hprogram : reader.program = .ok program) :
    program.lexemes = reader.tokens.map Token.lexeme ∧ program.Canonical reader.grammar ∧
      program.depth ≤ reader.limit := by
  obtain ⟨after, hread⟩ := Reader.program_eq_ok_iff.1 hprogram
  obtain ⟨hlexemes, hdepth, hcanonical⟩ := Production.program_reads hread
  exact ⟨hlexemes.symm, hcanonical, hdepth⟩

/-- Under either grammar, what is written in the tokens of a reader is returned. -/
theorem Reader.program_of_lexemes {reader : Reader} {program : Program}
    (hlexemes : program.lexemes = reader.tokens.map Token.lexeme)
    (hcanonical : program.Canonical reader.grammar) (hdepth : program.depth ≤ reader.limit) :
    reader.program = .ok program := by
  have hfound : Statement.AllFound reader.rules program.body := by
    cases hgrammar : reader.grammar with
    | precedence => exact Statement.allFound hgrammar program.body
    | rightRecursive => exact Statement.allFound_of_chain hgrammar program.body
  apply Reader.program_eq_ok_iff.2
  exact Production.program_of_found hfound hlexemes.symm hcanonical hdepth

/-- The precedence grammar: tokens are read as a program exactly if the program is
written as these tokens, is canonical and is not deeper than the limit. -/
theorem precedence_program_eq_ok_iff (tokens : List Token) (source : Option String)
    (limit : Nat) (program : Program) :
    ({ tokens, source, grammar := .precedence, limit } : Reader).program = .ok program ↔
      program.lexemes = tokens.map Token.lexeme ∧ program.Canonical .precedence ∧
        program.depth ≤ limit := by
  constructor
  · exact Reader.lexemes_of_program
  · rintro ⟨hlexemes, hcanonical, hdepth⟩
    apply Reader.program_eq_ok_iff.2
    exact Production.program_of_canonical ⟨.precedence, limit⟩ rfl hlexemes.symm hcanonical hdepth

/-- The right-recursive grammar: tokens are read as a program exactly if the program
is written as these tokens, each expression in it starts with a number, no grouping
is empty, no literal has a second dot and it is not deeper than the limit. -/
theorem rightRecursive_program_eq_ok_iff (tokens : List Token) (source : Option String)
    (limit : Nat) (program : Program) :
    ({ tokens, source, grammar := .rightRecursive, limit } : Reader).program = .ok program ↔
      program.lexemes = tokens.map Token.lexeme ∧ program.Canonical .rightRecursive ∧
        program.depth ≤ limit := by
  constructor
  · exact Reader.lexemes_of_program
  · rintro ⟨hlexemes, hcanonical, hdepth⟩
    exact Reader.program_of_lexemes hlexemes hcanonical hdepth

end Calculator
