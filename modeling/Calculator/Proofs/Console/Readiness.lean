import Calculator.Proofs.Console.Conversation
import Calculator.Proofs.Grammar.Balance
import Calculator.Proofs.Session.Evaluation

/-!
# No program is held back

The console decides by two tests whether to wait for more lines: it counts parentheses,
and it sees whether the text fails for want of more input.  A text that is a program
passes both.  Its parentheses are balanced, so counting them finds none open, and its
evaluation does not fail at all.  It is therefore evaluated as soon as its last line has
been taken, and a text that the console waits to see continued is never a program.
-/

namespace Calculator

theorem Console.parensClosed_of_count_eq {text : String}
    (hcount : text.toList.count '(' = text.toList.count ')') :
    Console.parensClosed text = true := by
  rw [Console.parensClosed, hcount]
  exact decide_eq_true (Nat.le_refl _)

/-- A program passes both tests of the console. -/
theorem Session.completes_of_parse {session : Session} {text : String} {program : Program}
    (hparse : parse text session.settings.grammar = .ok program) :
    session.settings.Completes text := by
  have hbalanced := count_parens_of_dyckWord (Reader.filterMap_of_program hparse)
  constructor
  · exact Console.parensClosed_of_count_eq hbalanced.2
  · obtain ⟨values, -, hevaluation⟩ := exists_trace_of_parse hparse
    rw [← Session.evaluate_fst, hevaluation]
    rfl

namespace Console

/-- The text that a line leads to when it is put behind what is held back. -/
def extended (console : Console) (line : String) : String :=
  match console.pending with
  | none => line
  | some text => text ++ "\n" ++ line

/-- A line that is neither ignored nor a command is submitted with what is held back. -/
theorem take_eq_submit {console : Console} {line : String}
    (hline : console.pending = none → Line.kind line = .text) :
    ∃ final, console.take line = console.submit (console.extended line) final := by
  obtain ⟨session, pending⟩ := console
  cases pending with
  | none =>
      have hturn := take_holding_nil session line
      rw [hline rfl] at hturn
      exact ⟨false, hturn⟩
  | some text => exact ⟨_, rfl⟩

/-- The line that makes a program of what is held back has it evaluated, and nothing is
held back after it. -/
theorem take_of_parse {console : Console} {line : String} {program : Program}
    (hline : console.pending = none → Line.kind line = .text)
    (hparse : parse (console.extended line) console.session.settings.grammar = .ok program) :
    ∃ after : Session, after.settings = console.session.settings ∧
      console.take line =
        ⟨console.session.settings.report (console.extended line), ⟨after, none⟩, false⟩ := by
  obtain ⟨final, hturn⟩ := take_eq_submit hline
  rw [hturn]
  exact submit_of_done (.inl (Session.completes_of_parse hparse))

/-! ### Along a conversation -/

/-- What is held back, if anything is, is no program. -/
def HoldsNoProgram (console : Console) : Prop :=
  ∀ text, console.pending = some text →
    ∀ program, parse text console.session.settings.grammar ≠ .ok program

theorem holdsNoProgram_of_pending {console : Console} (hpending : console.pending = none) :
    console.HoldsNoProgram := by
  intro text htext
  rw [hpending] at htext
  exact nomatch htext

theorem holdsNoProgram_submit (console : Console) (text : String) (final : Bool) :
    (console.submit text final).console.HoldsNoProgram := by
  obtain ⟨session, pending⟩ := console
  by_cases hdone : session.settings.Completes text ∨ final = true
  · obtain ⟨after, -, hturn⟩ : ∃ after : Session, after.settings = session.settings ∧
        (⟨session, pending⟩ : Console).submit text final =
          ⟨session.settings.report text, ⟨after, none⟩, false⟩ := submit_of_done hdone
    rw [hturn]
    exact holdsNoProgram_of_pending rfl
  · obtain ⟨hcompletes, hfinal⟩ := not_or.1 hdone
    obtain rfl : final = false := Bool.eq_false_iff.2 hfinal
    obtain ⟨after, hafter, hturn⟩ : ∃ after : Session, after.settings = session.settings ∧
        (⟨session, pending⟩ : Console).submit text false =
          ⟨session.settings.trial text, ⟨after, some text⟩, false⟩ :=
      submit_of_not_done hcompletes
    rw [hturn]
    intro held hheld program hparse
    obtain rfl : text = held := Option.some.inj hheld
    apply hcompletes
    rw [← hafter]
    exact Session.completes_of_parse hparse

/-- Whatever was held back before, no line leaves a program to be held back. -/
theorem holdsNoProgram_take (console : Console) (line : String) :
    (console.take line).console.HoldsNoProgram := by
  obtain ⟨session, pending⟩ := console
  cases pending with
  | none =>
      have hturn : (⟨session, none⟩ : Console).take line = _ := take_holding_nil session line
      rw [hturn]
      -- Only a line of text is submitted; no other line leaves anything to be held back.
      cases Line.kind line with
      | blank => exact holdsNoProgram_of_pending rfl
      | exit => exact holdsNoProgram_of_pending rfl
      | command => exact holdsNoProgram_of_pending rfl
      | text => exact holdsNoProgram_submit _ _ _
  | some text => exact holdsNoProgram_submit _ _ _

theorem HoldsNoProgram.after {console : Console} (hholds : console.HoldsNoProgram)
    (lines : List String) : (console.after lines).HoldsNoProgram := by
  induction lines generalizing console with
  | nil => exact hholds
  | cons line lines ih => exact ih (console.holdsNoProgram_take line)

/-- A text that can be read, under either grammar and any limit, never has more closing
than opening parentheses on the way and as many of them in all, so it is closed by their
count.  The line that makes a program of the text held back, or is one by itself, has it
evaluated at once and its results shown, and nothing is held back then.  So what is held
back at any time in a conversation is no program. -/
theorem program_never_held_back :
    (∀ (source : String) (grammar : Grammar) (limit : Nat) (program : Program),
      ({ Reader.ofSource source with grammar, limit } : Reader).program = .ok program →
      (∀ initial, initial <+: source.toList → initial.count ')' ≤ initial.count '(') ∧
        source.toList.count '(' = source.toList.count ')' ∧ parensClosed source = true) ∧
    (∀ (console : Console) (line : String) (program : Program),
      (console.pending = none → Line.kind line = .text) →
      parse (console.extended line) console.session.settings.grammar = .ok program →
      ∃ values after,
        (console.session.machine.run program.lower).1 = .ok values ∧
        after.settings = console.session.settings ∧
        console.take line =
          ⟨(console.session.settings.dumps [.tokens (tokenize (console.extended line)),
              .tree program, .code program.lower]).map Output.resultLine ++
            Output.resultLineUnlessEmpty (console.session.settings.results values),
            ⟨after, none⟩, false⟩) ∧
    ∀ (session : Session) (lines : List String) (text : String) (program : Program),
      (({ session } : Console).after lines).pending = some text →
      parse text (({ session } : Console).after lines).session.settings.grammar ≠
        .ok program := by
  refine ⟨?_, ?_, ?_⟩
  · intro source grammar limit program hprogram
    have hbalanced := count_parens_of_dyckWord (Reader.filterMap_of_program hprogram)
    exact ⟨hbalanced.1, hbalanced.2, parensClosed_of_count_eq hbalanced.2⟩
  · intro console line program hline hparse
    obtain ⟨values, hrun, hevaluation⟩ := Session.exists_trace_of_parse hparse
    obtain ⟨after, hafter, hturn⟩ := take_of_parse hline hparse
    rw [Settings.report, ← Session.evaluate_fst, hevaluation] at hturn
    exact ⟨values, after, hrun, hafter, hturn⟩
  · intro session lines text program htext
    have hstart : ({ session } : Console).HoldsNoProgram := holdsNoProgram_of_pending rfl
    exact hstart.after lines text htext program

/-- The first line of `(1+2` and `)*3` is held back and is no program; with the second
line it is one, and is evaluated. -/
theorem program_never_held_back_of_two_lines :
    let program : Program :=
      ⟨[.expression .multiply (.nested (.grouping
        [.expression .add (.number "1") (.number "2")])) (.number "3")]⟩
    let console : Console := ⟨{}, some "(1+2"⟩
    (({} : Console).after ["(1+2"]).pending = some "(1+2" ∧
      parse "(1+2" .precedence ≠ .ok program ∧
      parse "(1+2\n)*3" .precedence = .ok program ∧
      ((∀ initial, initial <+: "(1+2\n)*3".toList → initial.count ')' ≤ initial.count '(') ∧
        "(1+2\n)*3".toList.count '(' = "(1+2\n)*3".toList.count ')' ∧
        parensClosed "(1+2\n)*3" = true) ∧
      ∃ values after, ((default : Machine).run program.lower).1 = .ok values ∧
        after.settings = {} ∧
        console.take ")*3" =
          ⟨Output.resultLineUnlessEmpty (({} : Settings).results values), ⟨after, none⟩,
            false⟩ := by
  have hkind : Line.kind "(1+2" = .text := by decide
  have hopen : parensClosed "(1+2" = false := by decide
  have hheld : ({} : Console).after ["(1+2"] = ⟨{}, some "(1+2"⟩ := by
    have hturn := take_holding_nil {} "(1+2"
    rw [hkind] at hturn
    simp only [submit, hopen] at hturn
    exact congrArg Turn.console hturn
  have hparse : parse "(1+2\n)*3" .precedence = .ok ⟨[.expression .multiply (.nested (.grouping
      [.expression .add (.number "1") (.number "2")])) (.number "3")]⟩ := by cbv
  refine ⟨congrArg Console.pending hheld, ?_, hparse, ?_, ?_⟩
  · have hnone := program_never_held_back.2.2 {} ["(1+2"] "(1+2"
    rw [hheld] at hnone
    exact hnone _ rfl
  · exact program_never_held_back.1 _ _ _ _ hparse
  · apply program_never_held_back.2.1 ⟨{}, some "(1+2"⟩ ")*3" _ ?_ hparse
    intro hnone
    exact absurd hnone (Option.some_ne_none _)

end Console

end Calculator
