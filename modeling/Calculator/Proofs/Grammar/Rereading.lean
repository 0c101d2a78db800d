import Calculator.Grammar.Reader
import Calculator.Proofs.Grammar.Acceptance
import Calculator.Proofs.Grammar.CallTree
import Mathlib.Data.List.Basic

/-!
# Readers that are used again

Two productions count how deeply they nest, and each counts down only if it comes to its
end.  Those that do not count call those that do, so wherever reading goes on, the count
is what it was, and some tokens have been passed since.  This holds of every production
at every place and under either grammar, also where the grammar never calls it.  A reading
that fails leaves the count as high as it had come, but the next reading starts from
nought: of any steps taken on one reader, each reading comes to what it would come to on
a new reader of the same tokens with the settings of that moment.
-/

namespace Calculator

namespace Cursor.Further

variable {after : Cursor}

/-- In terms of indices, the place is a later one, at most the end of the tokens. -/
theorem exists_index {tokens : List Token} {index nesting : Nat}
    (hfurther : Further ⟨tokens.drop index, nesting⟩ after) :
    ∃ later, index < later ∧ later ≤ tokens.length ∧ after = ⟨tokens.drop later, nesting⟩ := by
  obtain ⟨⟨used, hsome, hrest⟩, hnesting⟩ := hfurther
  have hrest : tokens.drop index = used ++ after.rest := hrest
  have hnesting : after.nesting = nesting := hnesting
  have hlength := congrArg List.length hrest
  rw [List.length_drop, List.length_append] at hlength
  have hpositive : 0 < used.length := List.length_pos_iff.2 hsome
  refine ⟨index + used.length, by omega, by omega, ?_⟩
  rw [← List.drop_drop, hrest, List.drop_left, ← hnesting]

end Cursor.Further

/-- Where it ends in a value, it has come from one token to a later one, at most to the end
of the tokens, and its nesting is what it was. -/
def Outcome.ReturnsBehind {α : Type} (outcome : Outcome α) (tokens : List Token)
    (index nesting : Nat) : Prop :=
  ∀ value after, outcome = .ok value after →
    ∃ later, index < later ∧ later ≤ tokens.length ∧ after = ⟨tokens.drop later, nesting⟩

namespace Reader

variable {reader other : Reader}

/-! ### Steps taken on one reader -/

/-- What is done with a reader: it is read, or one of its settings is changed. -/
inductive Step where
  | read
  | grammar (grammar : Grammar)
  | limit (limit : Nat)
  | source (source : String)
deriving DecidableEq, Repr, Inhabited

/-- Only the settings of a step; a reading has none. -/
def adjust (reader : Reader) : Step → Reader
  | .read => reader
  | .grammar grammar => { reader with grammar }
  | .limit limit => { reader with limit }
  | .source source => { reader with source := some source }

/-- What a step answers, if it is a reading, and the reader as the step leaves it. -/
def take (reader : Reader) : Step → Option (Except SyntaxError Program) × Reader
  | .read => (some reader.read.1, reader.read.2)
  | step => (none, reader.adjust step)

/-- The answers of one reader to steps taken in turn. -/
def answers : Reader → List Step → List (Option (Except SyntaxError Program))
  | _, [] => []
  | reader, step :: steps => (reader.take step).1 :: (reader.take step).2.answers steps

/-- A new reader of the same tokens with the same settings. -/
def renewed (reader : Reader) : Reader :=
  { tokens := reader.tokens, source := reader.source, grammar := reader.grammar,
    limit := reader.limit }

/-- Where the last reading stopped is nothing that the next one depends on. -/
theorem program_renewed (reader : Reader) : reader.renewed.program = reader.program := by
  have houtcome : reader.renewed.outcome = reader.outcome := rfl
  rw [program, program, read, read, houtcome]
  cases reader.outcome <;> rfl

/-- A reading changes where the reader stands, and nothing else. -/
theorem renewed_read (reader : Reader) : reader.read.2.renewed = reader.renewed := by
  rw [read]
  cases reader.outcome <;> rfl

theorem renewed_take (reader : Reader) (step : Step) :
    (reader.take step).2.renewed = (reader.adjust step).renewed := by
  cases step with
  | read => exact renewed_read reader
  | grammar | limit | source => rfl

theorem renewed_adjust (reader : Reader) (step : Step) :
    (reader.adjust step).renewed = (reader.renewed.adjust step).renewed := by
  cases step <;> rfl

theorem renewed_foldl_adjust (hsame : reader.renewed = other.renewed) (steps : List Step) :
    (steps.foldl adjust reader).renewed = (steps.foldl adjust other).renewed := by
  induction steps generalizing reader other with
  | nil => exact hsame
  | cons step steps ih =>
      apply ih
      rw [renewed_adjust, hsame, ← renewed_adjust]

/-- Each reading answers what a new reader would with the settings made before it. -/
theorem answers_of_read {steps : List Step} {index : Nat} (hread : steps[index]? = some .read) :
    (reader.answers steps)[index]? =
      some (some ((steps.take index).foldl adjust reader).renewed.program) := by
  -- Induction on the steps: what a step leaves differs from its settings only in where the
  -- reader stands, and that is lost in the new reader.
  induction steps generalizing reader index with
  | nil => simp at hread
  | cons step steps ih =>
      cases index with
      | zero =>
          obtain rfl : step = .read := by simpa using hread
          rw [List.take_zero, List.foldl_nil, program_renewed]
          rfl
      | succ index =>
          rw [List.getElem?_cons_succ] at hread
          rw [answers, List.getElem?_cons_succ, ih hread, List.take_succ_cons, List.foldl_cons,
            renewed_foldl_adjust (renewed_take reader step)]

/-- A reading that succeeds leaves the reader at the end of its tokens, with nothing
counted. -/
theorem stopped_of_ok {result : Program} (hread : reader.program = .ok result) :
    reader.read.2.stopped = ⟨reader.tokens.drop reader.tokens.length, 0⟩ := by
  obtain ⟨after, houtcome⟩ := program_eq_ok_iff.1 hread
  rw [read, outcome, houtcome, List.drop_length]
  exact Production.eq_end_of_program houtcome

end Reader

/-- Every production that ends in a value is behind where it was called, at the same
nesting; a program that is read leaves no tokens and no nesting; and no reading depends on
those before it. -/
theorem readings_balanced_and_independent :
    (∀ (rules : Rules) (budget : Nat) (tokens : List Token) (index nesting : Nat),
      (Production.statement rules budget ⟨tokens.drop index, nesting⟩).ReturnsBehind
        tokens index nesting ∧
      (∀ minimum, (Production.climbing rules budget minimum
        ⟨tokens.drop index, nesting⟩).ReturnsBehind tokens index nesting) ∧
      ∀ token, tokens[index]? = some token →
        (Production.grouping rules budget token
          ⟨tokens.drop (index + 1), nesting⟩).ReturnsBehind tokens index nesting ∧
        (Production.chainExpression rules budget token
          ⟨tokens.drop (index + 1), nesting⟩).ReturnsBehind tokens index nesting) ∧
    (∀ (reader : Reader) (result : Program), reader.program = .ok result →
      reader.read.2.stopped = ⟨reader.tokens.drop reader.tokens.length, 0⟩) ∧
    ∀ (reader : Reader) (steps : List Reader.Step) (index : Nat),
      steps[index]? = some .read → (reader.answers steps)[index]? =
        some (some ((steps.take index).foldl Reader.adjust reader).renewed.program) := by
  refine ⟨fun rules budget tokens index nesting => ⟨?_, ?_, ?_⟩, fun _ _ => Reader.stopped_of_ok,
    fun _ _ _ => Reader.answers_of_read⟩
  · intro value after hread
    have hfurther : Cursor.Further _ after :=
      Production.leavesBehind_of_read .statement hread
    exact hfurther.exists_index
  · intro minimum value after hread
    have hfurther : Cursor.Further _ after :=
      Production.leavesBehind_of_read (.climbing minimum) hread
    exact hfurther.exists_index
  · intro token htoken
    obtain ⟨hindex, hget⟩ := List.getElem?_eq_some_iff.1 htoken
    have hbefore : Cursor.before ⟨tokens.drop (index + 1), nesting⟩ token =
        ⟨tokens.drop index, nesting⟩ := by
      rw [Cursor.before, List.drop_eq_getElem_cons hindex, hget]
    constructor
    · intro value after hread
      have hfurther : Cursor.Further _ after :=
        Production.leavesBehind_of_read (.grouping token) hread
      exact (hbefore ▸ hfurther).exists_index
    · intro value after hread
      have hfurther : Cursor.Further _ after :=
        Production.leavesBehind_of_read (.chainExpression token) hread
      exact (hbefore ▸ hfurther).exists_index

/-- With a limit of one, `((1+2))` fails with both parentheses counted, and this reading is
not seen in the next one, with the usual limit.  Five deep, its inner grouping is read as
well, and is five deep behind it. -/
theorem readings_balanced_and_independent_after_failure :
    let reader := Reader.ofSource "((1+2))"
    let strict : Reader := { reader with limit := 1 }
    let steps : List Reader.Step := [.limit 1, .read, .limit 256, .read]
    let sum : Statement := .expression .add (.number "1") (.number "2")
    strict.outcome = .failed (.tooDeep ⟨.parenthesis, "(", 1⟩) ⟨reader.tokens.drop 2, 2⟩ ∧
      reader.program = .ok ⟨[.grouping [.grouping [sum]]]⟩ ∧
      reader.read.2.stopped = ⟨reader.tokens.drop reader.tokens.length, 0⟩ ∧
      (reader.answers steps)[1]? = some (some strict.program) ∧
      (reader.answers steps)[3]? = some (some reader.program) ∧
      ∃ after, Production.grouping ⟨.precedence, 9⟩ 99 ⟨.parenthesis, "(", 1⟩
          ⟨reader.tokens.drop 2, 5⟩ = .ok ⟨[sum], 2⟩ after ∧
        ∃ later, 1 < later ∧ later ≤ reader.tokens.length ∧
          after = ⟨reader.tokens.drop later, 5⟩ := by
  intro reader strict steps sum
  have hread : reader.program = .ok ⟨[.grouping [.grouping [sum]]]⟩ := by cbv
  have hinner : Production.grouping ⟨.precedence, 9⟩ 99 ⟨.parenthesis, "(", 1⟩
      ⟨reader.tokens.drop 2, 5⟩ = .ok ⟨[sum], 2⟩ ⟨reader.tokens.drop 6, 5⟩ := by
    cbv
  obtain ⟨hproductions, hend, hanswers⟩ := readings_balanced_and_independent
  obtain ⟨-, -, hbehind⟩ := hproductions ⟨.precedence, 9⟩ 99 reader.tokens 1 5
  refine ⟨by cbv, hread, hend reader _ hread, hanswers reader steps 1 rfl,
    hanswers reader steps 3 rfl, _, hinner, ?_⟩
  exact (hbehind _ (by cbv)).1 _ _ hinner

end Calculator
