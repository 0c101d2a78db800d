import Calculator.Proofs.Grammar.Descent
import Calculator.Proofs.Token.Append
import Mathlib.Data.List.Forall2

/-!
# Tokens moved elsewhere

Reading goes by the kinds and texts of the tokens.  Where the tokens stand, and from
which source they were cut, shows only in an error: it lies at the token at which the
problem was met, or at the end of the input, and of the messages only the one about a
parenthesis that is never closed mentions an offset.  A text may therefore be spaced in
another way, and its tokens read without the text, with the same outcome: the second
reading follows the first with the tokens of one index as counterparts of each other.
-/

namespace Calculator

/-! ### Tokens and cursors -/

/-- The two tokens have the same index in their lists, and the same kind and text. -/
structure Token.Counterpart (tokens others : List Token) (token other : Token) : Prop where
  index : ∃ index : Nat, tokens[index]? = some token ∧ others[index]? = some other
  lexeme : other.lexeme = token.lexeme

namespace Token.Counterpart

variable {tokens others : List Token} {token other : Token}

theorem kind (hpair : Counterpart tokens others token other) : other.kind = token.kind :=
  congrArg Prod.fst hpair.lexeme

theorem text (hpair : Counterpart tokens others token other) : other.text = token.text :=
  congrArg Prod.snd hpair.lexeme

theorem dots (hpair : Counterpart tokens others token other) : other.dots = token.dots := by
  rw [Token.dots, Token.dots, hpair.text]

end Token.Counterpart

/-- Lists of the same lexemes are counterparts of each other, token by token. -/
theorem Token.forall₂_counterpart {tokens others : List Token}
    (hlexemes : tokens.map Token.lexeme = others.map Token.lexeme) :
    List.Forall₂ (Counterpart tokens others) tokens others := by
  have hlength : tokens.length = others.length := by
    simpa only [List.length_map] using congrArg List.length hlexemes
  apply List.forall₂_iff_get.2
  refine ⟨hlength, ?_⟩
  intro index hindex hother
  refine ⟨⟨index, List.getElem?_eq_getElem hindex, List.getElem?_eq_getElem hother⟩, ?_⟩
  have hsame := congrArg (·[index]?) hlexemes
  simp only [List.getElem?_map, List.getElem?_eq_getElem hindex, List.getElem?_eq_getElem hother,
    Option.map_some, Option.some.injEq] at hsame
  exact hsame.symm

/-- Two cursors at one index of their lists. -/
structure Cursor.Mirrors (tokens others : List Token) (cursor other : Cursor) : Prop where
  rest : List.Forall₂ (Token.Counterpart tokens others) cursor.rest other.rest
  nesting : other.nesting = cursor.nesting

namespace Cursor.Mirrors

variable {tokens others : List Token} {cursor other : Cursor} {token : Token}

/-- In front of a token stands, in the other list, its counterpart. -/
theorem exists_before (hmirrors : (cursor.before token).Mirrors tokens others other) :
    ∃ counterpart behind, other = Cursor.before behind counterpart ∧
      cursor.Mirrors tokens others behind ∧
      Token.Counterpart tokens others token counterpart := by
  obtain ⟨rest, nesting⟩ := other
  obtain ⟨hrest, hnesting⟩ := hmirrors
  cases hrest with
  | @cons _ counterpart _ more hpair htail =>
      exact ⟨counterpart, ⟨more, nesting⟩, rfl, ⟨htail, hnesting⟩, hpair⟩

theorem ended (hmirrors : cursor.Mirrors tokens others other) (hend : cursor.rest = []) :
    other.rest = [] := by
  have hrest := hmirrors.rest
  rw [hend] at hrest
  exact List.forall₂_nil_left_iff.1 hrest

end Cursor.Mirrors

namespace Simulation

variable {tokens others : List Token}

/-- The same rules for tokens that are counterparts of each other. -/
def relocation (rules : Rules) (tokens others : List Token) : Simulation rules rules where
  mayGoOn := False
  tokens := Token.Counterpart tokens others
  cursors := Cursor.Mirrors tokens others
  rules := .refl rules
  kind_eq := Token.Counterpart.kind
  text_eq := fun hpair _ => hpair.text
  dots_le := fun hpair => Nat.le_of_eq hpair.dots.symm
  next := fun hmirrors => by
    obtain ⟨other, more, rfl, hbehind, hpair⟩ := hmirrors.exists_before
    exact ⟨other, more, rfl, hbehind, hbehind.nesting, hpair, fun _ => hpair.text⟩
  ended := fun hmirrors hend => .inr (hmirrors.ended hend)
  goneOn := False.elim
  nest := fun hmirrors => ⟨hmirrors.rest, congrArg (· + 1) hmirrors.nesting⟩
  unnest := fun hmirrors => ⟨hmirrors.rest, congrArg (· - 1) hmirrors.nesting⟩

end Simulation

namespace Production

theorem repeats_program (rules : Rules) {tokens others : List Token}
    (hlexemes : tokens.map Token.lexeme = others.map Token.lexeme) :
    (Simulation.relocation rules tokens others).Repeats (program rules tokens)
      (program rules others) := by
  have hstart : (⟨tokens, 0⟩ : Cursor).Mirrors tokens others ⟨others, 0⟩ :=
    ⟨Token.forall₂_counterpart hlexemes, rfl⟩
  have hdescent := descent rules (budgetFor rules.limit) .openBody ⟨tokens, 0⟩
  have hbody := follows_of_descent (.relocation rules tokens others) hdescent (Nat.le_refl _)
  apply Simulation.Binds.bind (hbody ⟨others, 0⟩ hstart)
  rintro body after _ (hmore | ⟨later, hlong, hafter⟩)
  · exact hmore.elim
  · rw [hlong]
    exact ⟨later, rfl, hafter⟩

end Production

/-! ### Errors -/

namespace SyntaxError

/-- The message about a parenthesis that is never closed; no other one mentions an
offset. -/
def unclosedMessage (offset : Nat) : String :=
  "expected " ++ ("`)` to close `(` at offset " ++ toString offset) ++ ", got end of input"

/-- Errors of the same kind that lie at tokens of one index, unless it is the input that
has ended, and say the same but for the offset of a parenthesis. -/
structure Counterpart (tokens others : List Token) (error other : SyntaxError) : Prop where
  kind : other.kind = error.kind
  offset : error.kind ≠ .unexpectedEnding → ∃ token counterpart : Token,
    Token.Counterpart tokens others token counterpart ∧ error.offset = token.start ∧
      other.offset = counterpart.start
  message : other.message = error.message ∨ error.kind = .unexpectedEnding ∧
    ∃ opening counterpart : Token, Token.Counterpart tokens others opening counterpart ∧
      error.message = unclosedMessage opening.start ∧
      other.message = unclosedMessage counterpart.start

end SyntaxError

/-- Problems met at counterparts of each other are reported there. -/
theorem Problem.Corresponds.counterpart {tokens others : List Token} {problem other : Problem}
    (hproblem : problem.Corresponds (Token.Counterpart tokens others) other)
    (limit finish otherFinish : Nat) (source otherSource : Option String) :
    (problem.error limit finish source).Counterpart tokens others
      (other.error limit otherFinish otherSource) := by
  cases hproblem with
  | ambiguous hpair =>
      refine ⟨rfl, fun _ => ⟨_, _, hpair, rfl, rfl⟩, .inl ?_⟩
      simp only [Problem.error, SyntaxError.lexicalAmbiguity, SyntaxError.atToken,
        SyntaxError.located, hpair.text]
  | unexpected expected hpair =>
      refine ⟨rfl, fun _ => ⟨_, _, hpair, rfl, rfl⟩, .inl ?_⟩
      simp only [Problem.error, SyntaxError.unexpectedToken, SyntaxError.atToken,
        SyntaxError.located, hpair.text]
  | ended expected => exact ⟨rfl, fun hkind => absurd rfl hkind, .inl rfl⟩
  | unclosed hpair =>
      exact ⟨rfl, fun hkind => absurd rfl hkind, .inr ⟨rfl, _, _, hpair, rfl, rfl⟩⟩
  | tooDeep hpair => exact ⟨rfl, fun _ => ⟨_, _, hpair, rfl, rfl⟩, .inl rfl⟩

/-! ### Readers -/

namespace Reader

/-- Both readers return the same program, or both fail and their errors are
counterparts of each other. -/
def Agree (first second : Reader) : Prop :=
  (∃ program, first.program = .ok program ∧ second.program = .ok program) ∨
    ∃ error other, first.program = .error error ∧ second.program = .error other ∧
      error.Counterpart first.tokens second.tokens other

variable {first second : Reader}

theorem agree_of_lexemes (hgrammar : first.grammar = second.grammar)
    (hlimit : first.limit = second.limit)
    (hlexemes : first.tokens.map Token.lexeme = second.tokens.map Token.lexeme) :
    first.Agree second := by
  have hrules : second.rules = first.rules := by rw [rules, rules, hgrammar, hlimit]
  have hrepeats :
      (Simulation.relocation first.rules first.tokens second.tokens).Repeats
        first.outcome second.outcome := by
    rw [outcome, outcome, hrules]
    exact Production.repeats_program first.rules hlexemes
  have hlasts : first.outcome ≠ .exhausted := Production.program_ne_exhausted _ _
  cases houtcome : first.outcome with
  | ok program after =>
      rw [houtcome] at hrepeats
      obtain ⟨later, hother, -⟩ := hrepeats
      exact .inl ⟨program, program_eq_ok_iff.2 ⟨_, houtcome⟩, program_eq_ok_iff.2 ⟨_, hother⟩⟩
  | failed problem stop =>
      rw [houtcome] at hrepeats
      right
      generalize hother : second.outcome = long at hrepeats
      cases hrepeats with
      | again hproblem hstop =>
          refine ⟨_, _, program_of_failed houtcome, program_of_failed hother, ?_⟩
          rw [← hlimit]
          exact hproblem.counterpart _ _ _ _ _
      | raised hlower => exact absurd hlower (Nat.lt_irrefl _)
      | goneOn hmore | hopeless hmore => exact hmore.elim
  | exhausted => exact absurd houtcome hlasts

end Reader

/-! ### Spacing -/

namespace Lexer

/-- The kind that the tokenizer gives to a text. -/
def kindOf (text : String) : TokenKind :=
  match text.toList with
  | [] => .unknown
  | character :: _ =>
      if CharClass.isDigit character then .number else singleKind character

theorem kind_of_mem_tokens {characters : List Char} {offset : Nat} {token : Token}
    (htoken : token ∈ (⟨characters, offset⟩ : Lexer).tokens) : token.kind = kindOf token.text := by
  induction characters using cutInduction generalizing offset with
  | nil =>
      rw [tokens_nil] at htoken
      exact absurd htoken List.not_mem_nil
  | blank character rest hblank ih =>
      rw [tokens_cons_of_isWhitespace _ _ hblank] at htoken
      exact ih htoken
  | number character rest hdigit ih =>
      rw [tokens_cons_of_isDigit _ _ hdigit] at htoken
      rcases List.mem_cons.1 htoken with rfl | hmore
      · simp only [kindOf, String.toList_ofList, hdigit, if_true]
      · exact ih hmore
  | single character rest hblank hdigit ih =>
      rw [tokens_cons_of_single _ _ hblank hdigit] at htoken
      rcases List.mem_cons.1 htoken with rfl | hmore
      · simp [kindOf, hdigit]
      · exact ih hmore

end Lexer

/-- Tokens cut from a source have their kinds from their texts. -/
theorem map_lexeme_tokenize (source : String) :
    (tokenize source).map Token.lexeme =
      ((tokenize source).map Token.text).map fun text => (Lexer.kindOf text, text) := by
  rw [List.map_map]
  apply List.map_congr_left
  intro token htoken
  exact Prod.ext (Lexer.kind_of_mem_tokens htoken) rfl

/-- Reading goes by kinds and texts.  Readers with the same grammar and limit, on
tokens of the same kinds and texts and with whatever source or none, return the same
program or fail alike: with the same kind, at the same index unless the input has
ended, and in the same words but for the offset of a parenthesis that is never closed.
So do readers of a text and of the same tokens spaced in another way, and readers of a
text and of its tokens alone. -/
theorem agree_of_relocated_tokens :
    (∀ first second : Reader, first.grammar = second.grammar → first.limit = second.limit →
      first.tokens.map Token.lexeme = second.tokens.map Token.lexeme → first.Agree second) ∧
    (∀ (source respaced : String) (grammar : Grammar) (limit : Nat),
      (tokenize source).map Token.text = (tokenize respaced).map Token.text →
      ({ Reader.ofSource source with grammar, limit } : Reader).Agree
        { Reader.ofSource respaced with grammar, limit }) ∧
    ∀ (source : String) (grammar : Grammar) (limit : Nat),
      ({ Reader.ofTokens (tokenize source) with grammar, limit } : Reader).Agree
        { Reader.ofSource source with grammar, limit } := by
  refine ⟨fun _ _ => Reader.agree_of_lexemes, ?_, ?_⟩
  · intro source respaced grammar limit htexts
    have hlexemes : (tokenize source).map Token.lexeme = (tokenize respaced).map Token.lexeme := by
      rw [map_lexeme_tokenize, map_lexeme_tokenize, htexts]
    exact Reader.agree_of_lexemes rfl rfl hlexemes
  · intro source grammar limit
    exact Reader.agree_of_lexemes rfl rfl rfl

/-- The second operator of `1++2` is unexpected, with blanks around it as without, and
so it is when the text is not known. -/
theorem agree_of_relocated_operator :
    (tokenize "1++2").map Token.text = (tokenize "1 + + 2").map Token.text ∧
      (Reader.ofSource "1++2").Agree (Reader.ofSource "1 + + 2") ∧
      (Reader.ofTokens (tokenize "1++2")).Agree (Reader.ofSource "1 + + 2") := by
  have htexts : (tokenize "1++2").map Token.text = (tokenize "1 + + 2").map Token.text := by cbv
  have hlexemes : (tokenize "1++2").map Token.lexeme = (tokenize "1 + + 2").map Token.lexeme := by
    cbv
  obtain ⟨htokens, hspacing, -⟩ := agree_of_relocated_tokens
  exact ⟨htexts, hspacing _ _ .precedence 256 htexts, htokens _ _ rfl rfl hlexemes⟩

end Calculator
