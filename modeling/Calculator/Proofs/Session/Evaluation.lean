import Calculator.Proofs.Grammar.Acceptance
import Calculator.Proofs.Machine.Meaning
import Calculator.Proofs.Number.Literal
import Calculator.Session.Basic
import Mathlib

/-!
# Source that can be read can be evaluated

A program that was read from source text holds only literals that are numbers,
and no grouping in it is empty, so every operand leaves at least one value.  The
machine therefore gets through its code, and the only way in which an evaluation
can fail is that the source cannot be read.

The precedence grammar is meant to let an operand stand for one value only.  It
looks at the outermost parentheses of the operand, not at those inside, and an
exact account is given of the programs for which that is enough.
-/

namespace Calculator

/-! ### Canonical trees leave values -/

mutual

theorem Operand.filled_of_canonical {grammar : Grammar} : ∀ {operand : Operand},
    operand.Canonical grammar → operand.Filled
  | .number _, _ => trivial
  | .nested _, hcanonical => Statement.filled_of_canonical hcanonical

theorem Statement.filled_of_canonical {grammar : Grammar} : ∀ {statement : Statement},
    statement.Canonical grammar → statement.Filled
  | .expression _ _ _, hcanonical =>
      ⟨Operand.filled_of_canonical hcanonical.2.1, Operand.filled_of_canonical hcanonical.2.2⟩
  | .grouping _, hcanonical => ⟨hcanonical.1, Statement.allFilled_of_canonical hcanonical.2⟩

theorem Statement.allFilled_of_canonical {grammar : Grammar} : ∀ {body : List Statement},
    Statement.AllCanonical grammar body → Statement.AllFilled body
  | [], _ => trivial
  | _ :: _, hcanonical =>
      ⟨Statement.filled_of_canonical hcanonical.1, Statement.allFilled_of_canonical hcanonical.2⟩

end

mutual

theorem Operand.resultCount_of_canonical {grammar : Grammar} : ∀ {operand : Operand},
    operand.Canonical grammar → (operand.resultCount = 1 ↔ operand.SingleValued)
  | .number _, _ => ⟨fun _ => trivial, fun _ => rfl⟩
  | .nested _, hcanonical => by
      obtain ⟨hsome, hle, hexact⟩ := Statement.resultCount_of_canonical hcanonical
      rw [Operand.resultCount, Operand.SingleValued, ← hexact]
      omega

/-- A canonical statement leaves at least a value for each of its expressions, and
no more than that exactly if its operands are single-valued. -/
theorem Statement.resultCount_of_canonical {grammar : Grammar} : ∀ {statement : Statement},
    statement.Canonical grammar →
    1 ≤ statement.expressionCount ∧ statement.expressionCount ≤ statement.resultCount ∧
      (statement.resultCount = statement.expressionCount ↔ statement.SingleValued)
  | .expression _ _ _, hcanonical => by
      obtain ⟨-, hleftCount⟩ :=
        Operand.supplied_of_filled (Operand.filled_of_canonical hcanonical.2.1)
      obtain ⟨-, hrightCount⟩ :=
        Operand.supplied_of_filled (Operand.filled_of_canonical hcanonical.2.2)
      have hleft := Operand.resultCount_of_canonical hcanonical.2.1
      have hright := Operand.resultCount_of_canonical hcanonical.2.2
      rw [Statement.expressionCount, Statement.resultCount, Statement.SingleValued, ← hleft,
        ← hright]
      omega
  | .grouping _, hcanonical => by
      obtain ⟨hsome, hle, hexact⟩ := Statement.totalResultCount_of_canonical hcanonical.2
      exact ⟨hsome hcanonical.1, hle, hexact⟩

theorem Statement.totalResultCount_of_canonical {grammar : Grammar} :
    ∀ {body : List Statement}, Statement.AllCanonical grammar body →
    (body ≠ [] → 1 ≤ Statement.totalExpressionCount body) ∧
      Statement.totalExpressionCount body ≤ Statement.totalResultCount body ∧
      (Statement.totalResultCount body = Statement.totalExpressionCount body ↔
        Statement.AllSingleValued body)
  | [], _ => ⟨fun hnonempty => absurd rfl hnonempty, Nat.le_refl 0, fun _ => trivial, fun _ => rfl⟩
  | _ :: _, hcanonical => by
      obtain ⟨hsome, hle, hexact⟩ := Statement.resultCount_of_canonical hcanonical.1
      obtain ⟨-, hleOthers, hexactOthers⟩ := Statement.totalResultCount_of_canonical hcanonical.2
      rw [Statement.totalExpressionCount, Statement.totalResultCount, Statement.AllSingleValued,
        ← hexact, ← hexactOthers]
      omega

end

/-! ### Literals of source text -/

mutual

theorem Operand.literal_of_canonical {grammar : Grammar} {literal : String} :
    ∀ {operand : Operand}, operand.Canonical grammar → literal ∈ operand.literals →
      Lexeme.number literal ∈ operand.lexemes ∧ literal.toList.count '.' ≤ 1
  | .number _, hcanonical, hmem => by
      obtain rfl := List.mem_singleton.1 hmem
      exact ⟨List.mem_cons_self, hcanonical⟩
  | .nested _, hcanonical, hmem => Statement.literal_of_canonical hcanonical hmem

/-- A literal of a canonical tree is written in it and has at most one dot. -/
theorem Statement.literal_of_canonical {grammar : Grammar} {literal : String} :
    ∀ {statement : Statement}, statement.Canonical grammar → literal ∈ statement.literals →
      Lexeme.number literal ∈ statement.lexemes ∧ literal.toList.count '.' ≤ 1
  | .expression _ _ _, hcanonical, hmem => by
      rw [Statement.lexemes]
      rcases List.mem_append.1 hmem with hleft | hright
      · obtain ⟨hlexeme, hdots⟩ := Operand.literal_of_canonical hcanonical.2.1 hleft
        exact ⟨List.mem_append_left _ hlexeme, hdots⟩
      · obtain ⟨hlexeme, hdots⟩ := Operand.literal_of_canonical hcanonical.2.2 hright
        exact ⟨List.mem_append_right _ (List.mem_cons_of_mem _ hlexeme), hdots⟩
  | .grouping _, hcanonical, hmem => by
      obtain ⟨hlexeme, hdots⟩ := Statement.literal_of_allCanonical hcanonical.2 hmem
      exact ⟨List.mem_cons_of_mem _ (List.mem_append_left _ hlexeme), hdots⟩

theorem Statement.literal_of_allCanonical {grammar : Grammar} {literal : String} :
    ∀ {body : List Statement}, Statement.AllCanonical grammar body →
      literal ∈ Statement.literalsEach body →
      Lexeme.number literal ∈ Statement.lexemesEach body ∧ literal.toList.count '.' ≤ 1
  | [], _, hmem => absurd hmem List.not_mem_nil
  | _ :: _, hcanonical, hmem => by
      rw [Statement.lexemesEach]
      rcases List.mem_append.1 hmem with hfirst | hothers
      · obtain ⟨hlexeme, hdots⟩ := Statement.literal_of_canonical hcanonical.1 hfirst
        exact ⟨List.mem_append_left _ hlexeme, hdots⟩
      · obtain ⟨hlexeme, hdots⟩ := Statement.literal_of_allCanonical hcanonical.2 hothers
        exact ⟨List.mem_append_right _ hlexeme, hdots⟩

end

/-- A program whose lexemes are those of some source text has only literals that
are numbers. -/
theorem Program.isSome_read?_of_tokenize {grammar : Grammar} {program : Program}
    {source : String} (hlexemes : program.lexemes = (tokenize source).map Token.lexeme)
    (hcanonical : program.Canonical grammar) :
    ∀ literal ∈ program.literals, (Number.read? literal).isSome = true := by
  intro literal hmem
  obtain ⟨hlexeme, hdots⟩ := Statement.literal_of_allCanonical hcanonical hmem
  have hwritten : Lexeme.number literal ∈ (tokenize source).map Token.lexeme :=
    hlexemes ▸ hlexeme
  obtain ⟨token, htoken, hspelled⟩ := List.mem_map.1 hwritten
  obtain ⟨hkind, rfl⟩ := Token.lexeme_eq_number_iff.1 hspelled
  exact isSome_read?_of_mem_tokenize htoken hkind hdots

/-! ### Programs of source text -/

/-- The code of a program that was read from source text finds its operands and
has only readable literals, under either grammar and any limit. -/
theorem Program.lower_of_ofSource {source : String} {grammar : Grammar} {limit : Nat}
    {program : Program}
    (hprogram : ({ Reader.ofSource source with grammar, limit } : Reader).program = .ok program) :
    Statement.AllSupplied program.body ∧ program.lower.Readable := by
  obtain ⟨hlexemes, hcanonical, -⟩ := Reader.lexemes_of_program hprogram
  have hfilled : program.Filled := Statement.allFilled_of_canonical hcanonical
  refine ⟨(Statement.allSupplied_of_filled hfilled).1, ?_⟩
  rw [Code.Readable, program.literals_lower]
  exact Program.isSome_read?_of_tokenize hlexemes hcanonical

namespace Session

variable {session : Session} {source : String}

/-- A text that cannot be read is dumped as far as its tokens. -/
theorem evaluate_of_unread {error : SyntaxError}
    (hparse : parse source session.settings.grammar = .error error) :
    (session.evaluate source).1 =
      ⟨session.settings.dumps [.tokens (tokenize source)], .error (.source error)⟩ := by
  simp only [evaluate, hparse, Settings.emit_nil]

/-- Once the machine gets through the code, the evaluation has a trace. -/
theorem evaluate_of_run {program : Program} {values : List Float}
    (hparse : parse source session.settings.grammar = .ok program)
    (hrun : (session.machine.run program.lower).1 = .ok values) :
    (session.evaluate source).1 =
      ⟨session.settings.dumps [.tokens (tokenize source), .tree program, .code program.lower],
        .ok ⟨tokenize source, program, program.lower, values⟩⟩ := by
  simp only [evaluate, hparse, hrun, Settings.emit_nil, Settings.emit_dumps, List.cons_append,
    List.nil_append]

/-- A text that can be read is evaluated to the values of its code. -/
theorem exists_trace_of_parse {program : Program}
    (hparse : parse source session.settings.grammar = .ok program) :
    ∃ values, (session.machine.run program.lower).1 = .ok values ∧
      (session.evaluate source).1 =
        ⟨session.settings.dumps [.tokens (tokenize source), .tree program, .code program.lower],
          .ok ⟨tokenize source, program, program.lower, values⟩⟩ := by
  obtain ⟨hsupplied, hreadable⟩ := Program.lower_of_ofSource hparse
  obtain ⟨values, hrun, -⟩ := Program.run_lower hsupplied hreadable session.machine
  exact ⟨values, hrun, evaluate_of_run hparse hrun⟩

end Session

/-- Source text that can be read can be evaluated: its code finds its operands and
the machine returns as many values as foretold.  A session therefore fails on no
text but one that cannot be read, after the dump of the tokens alone, and has
otherwise dumped what the trace it returns is dumped as. -/
theorem evaluate_of_source :
    (∀ (source : String) (grammar : Grammar) (limit : Nat) (program : Program)
        (machine : Machine),
      ({ Reader.ofSource source with grammar, limit } : Reader).program = .ok program →
      ∃ peak count values, program.lower.maxStackDepth = some peak ∧
        program.lower.resultCount = some count ∧
        (machine.run program.lower).1 = .ok values ∧ values.length = count) ∧
    ∀ (session : Session) (source : String),
      (∃ trace, (session.evaluate source).1.result = .ok trace ∧
        (session.evaluate source).1.dumps = session.settings.dumps trace.stages ∧
        trace.tokens = tokenize source ∧
        parse source session.settings.grammar = .ok trace.program ∧
        trace.code = trace.program.lower ∧
        (session.machine.run trace.code).1 = .ok trace.values) ∨
      ∃ error, (session.evaluate source).1.result = .error (.source error) ∧
        parse source session.settings.grammar = .error error ∧
        (session.evaluate source).1.dumps =
          if session.settings.printTokens then [session.settings.write (.tokens (tokenize source))]
          else [] := by
  constructor
  · intro source grammar limit program machine hprogram
    obtain ⟨hsupplied, hreadable⟩ := Program.lower_of_ofSource hprogram
    obtain ⟨peak, hpeak, -⟩ := Program.exists_maxStackDepth_lower hsupplied
    obtain ⟨values, hrun, hlength⟩ := Program.run_lower hsupplied hreadable machine
    exact ⟨peak, program.resultCount, values, hpeak, Program.resultCount_lower hsupplied, hrun,
      hlength⟩
  · intro session source
    cases hparse : parse source session.settings.grammar with
    | error error =>
        right
        rw [Session.evaluate_of_unread hparse]
        refine ⟨error, rfl, rfl, ?_⟩
        cases hprint : session.settings.printTokens <;>
          simp [Settings.dumps, Settings.shows, hprint]
    | ok program =>
        left
        obtain ⟨hsupplied, hreadable⟩ := Program.lower_of_ofSource hparse
        obtain ⟨values, hrun, -⟩ := Program.run_lower hsupplied hreadable session.machine
        rw [Session.evaluate_of_run hparse hrun]
        exact ⟨_, rfl, rfl, rfl, rfl, rfl, hrun⟩

/-- Under the right-recursive grammar an operand may leave several values, as in
`2*(1+1 3+4)`, and is evaluated all the same. -/
theorem evaluate_of_two_valued_operand :
    let program : Program :=
      ⟨[.expression .multiply (.number "2") (.nested (.grouping
        [.expression .add (.number "1") (.number "1"),
          .expression .add (.number "3") (.number "4")]))]⟩
    ({ Reader.ofSource "2*(1+1 3+4)" with grammar := .rightRecursive, limit := 3 } :
        Reader).program = .ok program ∧
      ∃ peak count values, program.lower.maxStackDepth = some peak ∧
        program.lower.resultCount = some count ∧
        ((default : Machine).run program.lower).1 = .ok values ∧ values.length = count := by
  have hprogram : ({ Reader.ofSource "2*(1+1 3+4)" with grammar := .rightRecursive, limit := 3 } :
      Reader).program = .ok ⟨[.expression .multiply (.number "2") (.nested (.grouping
        [.expression .add (.number "1") (.number "1"),
          .expression .add (.number "3") (.number "4")]))]⟩ := by cbv
  exact ⟨hprogram, evaluate_of_source.1 _ _ _ _ default hprogram⟩

/-! ### Operands of more than one value -/

/-- What the precedence grammar reads leaves a value for each expression at least,
and is evaluated to its meaning, with one value for each expression, exactly if
every operand in it is single-valued. -/
theorem precedence_values_iff_singleValued (source : String) (program : Program)
    (machine : Machine) (hparse : parse source .precedence = .ok program) :
    ∃ values, (machine.run program.lower).1 = .ok values ∧
      program.expressionCount ≤ values.length ∧
      (values.length = program.expressionCount ↔ program.SingleValued) ∧
      (program.values? = some values ↔ program.SingleValued) := by
  obtain ⟨-, hcanonical, -⟩ := Reader.lexemes_of_program hparse
  obtain ⟨hsupplied, hreadable⟩ := Program.lower_of_ofSource hparse
  obtain ⟨values, hrun, hlength⟩ := Program.run_lower hsupplied hreadable machine
  obtain ⟨-, hle, hexact⟩ := Statement.totalResultCount_of_canonical hcanonical
  refine ⟨values, hrun, hlength ▸ hle, hlength ▸ hexact, ?_, ?_⟩
  · intro hvalues
    exact (Statement.allSingleValued_of_valuesEach? hvalues).1
  · intro hsingle
    rw [Code.Readable, program.literals_lower] at hreadable
    obtain ⟨meaning, hmeaning, hyields⟩ :=
      Program.exists_values_and_run hsingle hreadable machine
    -- Both come from the same run, so the values are the meaning.
    obtain rfl : meaning = values := Except.ok.inj (hyields.symm.trans hrun)
    exact hmeaning

/-- An operand in two pairs of parentheses that holds one expression is fine. -/
theorem precedence_values_of_doubled_parentheses :
    let program : Program :=
      ⟨[.expression .multiply (.nested (.grouping [.grouping
        [.expression .add (.number "1") (.number "2")]])) (.number "5")]⟩
    parse "((1+2))*5" .precedence = .ok program ∧ program.SingleValued ∧
      ∃ values, ((default : Machine).run program.lower).1 = .ok values ∧
        program.expressionCount ≤ values.length ∧
        (values.length = program.expressionCount ↔ program.SingleValued) ∧
        (program.values? = some values ↔ program.SingleValued) := by
  have hparse : parse "((1+2))*5" .precedence = .ok
      ⟨[.expression .multiply (.nested (.grouping [.grouping
        [.expression .add (.number "1") (.number "2")]])) (.number "5")]⟩ := by cbv
  exact ⟨hparse, by decide, precedence_values_iff_singleValued _ _ default hparse⟩

/-- With two expressions in the inner parentheses the operand is let through as
well, and the one expression of the text leaves two values. -/
theorem precedence_reads_two_valued_operand :
    ∃ program values, parse "((1+2 3+4))*5" .precedence = .ok program ∧
      ((default : Machine).run program.lower).1 = .ok values ∧
      program.body.length = 1 ∧ program.expressionCount = 1 ∧ values.length = 2 := by
  have hparse : parse "((1+2 3+4))*5" .precedence = .ok
      ⟨[.expression .multiply (.nested (.grouping [.grouping
        [.expression .add (.number "1") (.number "2"),
          .expression .add (.number "3") (.number "4")]])) (.number "5")]⟩ := by cbv
  obtain ⟨hsupplied, hreadable⟩ := Program.lower_of_ofSource hparse
  obtain ⟨values, hrun, hlength⟩ := Program.run_lower hsupplied hreadable default
  exact ⟨_, values, hparse, hrun, rfl, rfl, hlength⟩

end Calculator
