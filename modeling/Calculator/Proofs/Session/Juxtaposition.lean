import Calculator.Proofs.Machine.Frame
import Calculator.Proofs.Session.Evaluation
import Calculator.Proofs.Token.Append

/-!
# Programs side by side

Statements are not separated by anything, so a program may be written behind another
one as long as a blank keeps the two texts apart.  The tokens are then those of the
two texts, and as what is read is decided by the tokens alone, the statements are
those of the two programs.  Their code stands one behind the other, and so do the
values.
-/

namespace Calculator

/-! ### Tokens -/

namespace Lexer

/-- Where a text starts shows in the offsets of its tokens only. -/
theorem map_lexeme_tokens (characters : List Char) (offset other : Nat) :
    (⟨characters, offset⟩ : Lexer).tokens.map Token.lexeme =
      (⟨characters, other⟩ : Lexer).tokens.map Token.lexeme := by
  have hshift : Token.lexeme ∘ Token.shift offset = Token.lexeme ∘ Token.shift other := rfl
  rw [← Nat.zero_add offset, ← Nat.zero_add other, tokens_shift, tokens_shift, List.map_map,
    List.map_map, hshift]

end Lexer

/-- A blank keeps the tokens of two texts apart. -/
theorem map_lexeme_tokenize_append {blank : Char} (hblank : CharClass.isWhitespace blank = true)
    (first second : String) :
    (tokenize (first ++ String.singleton blank ++ second)).map Token.lexeme =
      (tokenize first).map Token.lexeme ++ (tokenize second).map Token.lexeme := by
  have htext : (first ++ String.singleton blank ++ second).toList =
      first.toList ++ blank :: second.toList := by
    rw [String.toList_append, String.toList_append, String.toList_singleton, List.append_assoc]
    rfl
  have hstops : ∀ character ∈ (blank :: second.toList).head?,
      CharClass.continuesNumber character = false := by
    intro character hhead
    obtain rfl : blank = character := Option.some.inj hhead
    exact Lexer.continuesNumber_eq_false_of_isWhitespace hblank
  simp only [tokenize, Lexer.ofSource, htext]
  rw [Lexer.tokens_append _ _ hstops, List.map_append,
    Lexer.tokens_cons_of_isWhitespace _ _ hblank]
  exact congrArg _ (Lexer.map_lexeme_tokens _ _ _)

/-! ### Statements one behind the other -/

namespace Statement

variable {grammar : Grammar} (first second : List Statement)

@[simp]
theorem lexemesEach_append :
    lexemesEach (first ++ second) = lexemesEach first ++ lexemesEach second := by
  induction first with
  | nil => rfl
  | cons statement statements ih =>
      rw [List.cons_append, lexemesEach, lexemesEach, ih, List.append_assoc]

@[simp]
theorem greatestDepth_append :
    greatestDepth (first ++ second) = max (greatestDepth first) (greatestDepth second) := by
  induction first with
  | nil => rw [List.nil_append, greatestDepth, Nat.zero_max]
  | cons statement statements ih =>
      rw [List.cons_append, greatestDepth, greatestDepth, ih, Nat.max_assoc]

@[simp]
theorem allCanonical_append :
    AllCanonical grammar (first ++ second) ↔
      AllCanonical grammar first ∧ AllCanonical grammar second := by
  induction first with
  | nil => simp [AllCanonical]
  | cons statement statements ih =>
      rw [List.cons_append, AllCanonical, AllCanonical, ih, and_assoc]

end Statement

theorem Program.lower_append (first second : List Statement) :
    (Program.mk (first ++ second)).lower =
      (Program.mk first).lower ++ (Program.mk second).lower := by
  rw [lower_eq_postorder, lower_eq_postorder, lower_eq_postorder]
  exact Statement.postorderEach_append first second

/-! ### Readers and sessions -/

/-- Two programs written side by side are read as one. -/
theorem Reader.program_append {first second : String} {blank : Char} {grammar : Grammar}
    {limit : Nat} {body others : List Statement}
    (hblank : CharClass.isWhitespace blank = true)
    (hfirst : ({ Reader.ofSource first with grammar, limit } : Reader).program = .ok ⟨body⟩)
    (hsecond : ({ Reader.ofSource second with grammar, limit } : Reader).program =
      .ok ⟨others⟩) :
    ({ Reader.ofSource (first ++ String.singleton blank ++ second) with grammar, limit } :
      Reader).program = .ok ⟨body ++ others⟩ := by
  obtain ⟨hlexemes, hcanonical, hdepth⟩ := Reader.lexemes_of_program hfirst
  obtain ⟨hothers, hothersCanonical, hothersDepth⟩ := Reader.lexemes_of_program hsecond
  apply Reader.program_of_lexemes
  · calc
      Program.lexemes ⟨body ++ others⟩ = Program.lexemes ⟨body⟩ ++ Program.lexemes ⟨others⟩ :=
        Statement.lexemesEach_append body others
      _ = (tokenize first).map Token.lexeme ++ (tokenize second).map Token.lexeme := by
        rw [hlexemes, hothers]
        rfl
      _ = (tokenize (first ++ String.singleton blank ++ second)).map Token.lexeme :=
        (map_lexeme_tokenize_append hblank first second).symm
  · exact (Statement.allCanonical_append body others).2 ⟨hcanonical, hothersCanonical⟩
  · rw [Program.depth, Statement.greatestDepth_append]
    exact Nat.max_le.2 ⟨hdepth, hothersDepth⟩

/-- A program that can be read is evaluated to the values of its code. -/
theorem Session.exists_values_of_parse {session : Session} {source : String} {program : Program}
    (hparse : parse source session.settings.grammar = .ok program) :
    ∃ values, (session.machine.run program.lower).1 = .ok values ∧
      (session.evaluate source).1.values = .ok values := by
  obtain ⟨values, hrun, hevaluation⟩ := exists_trace_of_parse hparse
  refine ⟨values, hrun, ?_⟩
  rw [hevaluation]
  rfl

/-- Programs compose by juxtaposition.  Two texts that can be read, with a blank
between them, are read as the statements of the first followed by those of the
second; the code is that of the first followed by that of the second, and so are the
values that a session returns. -/
theorem program_of_juxtaposition (first second : String) (blank : Char) (grammar : Grammar)
    (body others : List Statement) (hblank : CharClass.isWhitespace blank = true) :
    (∀ limit, ({ Reader.ofSource first with grammar, limit } : Reader).program = .ok ⟨body⟩ →
      ({ Reader.ofSource second with grammar, limit } : Reader).program = .ok ⟨others⟩ →
      ({ Reader.ofSource (first ++ String.singleton blank ++ second) with grammar, limit } :
        Reader).program = .ok ⟨body ++ others⟩) ∧
    (Program.mk (body ++ others)).lower = (Program.mk body).lower ++ (Program.mk others).lower ∧
    ∀ session : Session, session.settings.grammar = grammar →
      parse first grammar = .ok ⟨body⟩ → parse second grammar = .ok ⟨others⟩ →
      ∃ values more, (session.evaluate first).1.values = .ok values ∧
        (session.evaluate second).1.values = .ok more ∧
        (session.evaluate (first ++ String.singleton blank ++ second)).1.values =
          .ok (values ++ more) := by
  refine ⟨fun limit => Reader.program_append hblank, Program.lower_append body others, ?_⟩
  rintro session rfl hfirst hsecond
  have hjoined : parse (first ++ String.singleton blank ++ second) session.settings.grammar =
      .ok ⟨body ++ others⟩ :=
    Reader.program_append hblank hfirst hsecond
  obtain ⟨values, hrun, hvalues⟩ := Session.exists_values_of_parse hfirst
  obtain ⟨more, hrunMore, hmore⟩ := Session.exists_values_of_parse hsecond
  refine ⟨values, more, hvalues, hmore, ?_⟩
  have hrunJoined : (session.machine.run (Program.mk (body ++ others)).lower).1 =
      .ok (values ++ more) := by
    rw [Program.lower_append]
    exact Machine.run_append hrun hrunMore session.machine
  rw [Session.evaluate_of_run hjoined hrunJoined]
  rfl

/-- The parenthesis behind the first program starts a statement of its own and does
not become an operand of it. -/
theorem program_of_juxtaposition_of_grouping :
    let body : List Statement := [.expression .add (.number "1") (.number "2")]
    let others : List Statement :=
      [.grouping [.expression .multiply (.number "3") (.number "4")]]
    parse "1+2" .precedence = .ok ⟨body⟩ ∧ parse "(3*4)" .precedence = .ok ⟨others⟩ ∧
      parse "1+2\n(3*4)" .precedence = .ok ⟨body ++ others⟩ ∧
      (Program.mk (body ++ others)).lower =
        (Program.mk body).lower ++ (Program.mk others).lower ∧
      ∃ values more, (({} : Session).evaluate "1+2").1.values = .ok values ∧
        (({} : Session).evaluate "(3*4)").1.values = .ok more ∧
        (({} : Session).evaluate "1+2\n(3*4)").1.values = .ok (values ++ more) := by
  intro body others
  have hfirst : parse "1+2" .precedence = .ok ⟨body⟩ := by cbv
  have hsecond : parse "(3*4)" .precedence = .ok ⟨others⟩ := by cbv
  obtain ⟨hprogram, hcode, hvalues⟩ :=
    program_of_juxtaposition "1+2" "(3*4)" '\n' .precedence body others (by decide)
  exact ⟨hfirst, hsecond, hprogram _ hfirst hsecond, hcode, hvalues {} rfl hfirst hsecond⟩

end Calculator
