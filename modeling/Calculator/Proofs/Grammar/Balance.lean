import Calculator.Proofs.Grammar.Acceptance
import Calculator.Proofs.Token.Append
import Mathlib.Combinatorics.Enumerative.DyckWord

/-!
# Balanced parentheses

The parentheses of a tree form a Dyck word: an operand that is a number has none, those
of an expression are those of its operands one after the other, and a grouping nests
those of its body.  They are the parentheses among the lexemes of the tree, and a text
has no others than those of its tokens, since a number takes in none and every other
character is a token of its own.  So the characters of a text that can be read never
have more closing than opening parentheses, however far one looks, and as many of the
one as of the other in all.
-/

namespace Calculator

open DyckStep

/-! ### Parentheses of a text -/

/-- The step up or down that a character is if it is a parenthesis. -/
def CharClass.paren? (character : Char) : Option DyckStep :=
  if character = '(' then some U else if character = ')' then some D else none

namespace CharClass

theorem paren?_eq_some_iff {character : Char} :
    (paren? character = some U ↔ character = '(') ∧
      (paren? character = some D ↔ character = ')') := by
  by_cases hopening : character = '('
  · subst hopening
    decide
  · by_cases hclosing : character = ')'
    · subst hclosing
      decide
    · simp [paren?, hopening, hclosing]

theorem count_U_filterMap (characters : List Char) :
    (characters.filterMap paren?).count U = characters.count '(' := by
  rw [List.count_filterMap, List.count]
  apply List.countP_congr
  intro character _
  simp [paren?_eq_some_iff.1]

theorem count_D_filterMap (characters : List Char) :
    (characters.filterMap paren?).count D = characters.count ')' := by
  rw [List.count_filterMap, List.count]
  apply List.countP_congr
  intro character _
  simp [paren?_eq_some_iff.2]

theorem paren?_of_isWhitespace {character : Char} (hblank : isWhitespace character = true) :
    paren? character = none := by
  simp only [isWhitespace, Bool.or_eq_true, beq_iff_eq] at hblank
  rcases hblank with ((rfl | rfl) | rfl) | rfl <;> rfl

theorem paren?_of_continuesNumber {character : Char}
    (hcontinues : continuesNumber character = true) : paren? character = none := by
  have hopening : character ≠ '(' := by
    rintro rfl
    exact absurd hcontinues (by decide)
  have hclosing : character ≠ ')' := by
    rintro rfl
    exact absurd hcontinues (by decide)
  rw [paren?, if_neg hopening, if_neg hclosing]

end CharClass

open CharClass (paren?)

/-- A text whose parentheses form a Dyck word has, from its start on, never more closing
parentheses than opening ones, and in all as many of them. -/
theorem count_parens_of_dyckWord {characters : List Char} {word : DyckWord}
    (hword : characters.filterMap paren? = word.toList) :
    (∀ initial, initial <+: characters → initial.count ')' ≤ initial.count '(') ∧
      characters.count '(' = characters.count ')' := by
  constructor
  · intro initial hinitial
    have hsteps : initial.filterMap paren? <+: word.toList := hword ▸ hinitial.filterMap paren?
    rw [← CharClass.count_U_filterMap, ← CharClass.count_D_filterMap,
      List.prefix_iff_eq_take.1 hsteps]
    exact word.count_D_le_count_U _
  · rw [← CharClass.count_U_filterMap, ← CharClass.count_D_filterMap, hword]
    exact word.count_U_eq_count_D

/-! ### Parentheses of a tree -/

/-- The step up or down that a lexeme is if it is a parenthesis. -/
def Lexeme.paren? (lexeme : Lexeme) : Option DyckStep :=
  if lexeme = leftParen then some U else if lexeme = rightParen then some D else none

theorem Lexeme.paren?_of_kind {lexeme : Lexeme} (hkind : lexeme.1 ≠ .parenthesis) :
    lexeme.paren? = none := by
  rw [paren?, if_neg, if_neg]
  · rintro rfl
    exact hkind rfl
  · rintro rfl
    exact hkind rfl

mutual

def Operand.parens : Operand → DyckWord
  | .number _ => 0
  | .nested statement => statement.parens

def Statement.parens : Statement → DyckWord
  | .expression _ left right => left.parens + right.parens
  | .grouping body => (Statement.parensEach body).nest

def Statement.parensEach : List Statement → DyckWord
  | [] => 0
  | statement :: statements => statement.parens + Statement.parensEach statements

end

mutual

theorem Operand.filterMap_lexemes : ∀ operand : Operand,
    operand.lexemes.filterMap Lexeme.paren? = operand.parens.toList
  | .number _ => rfl
  | .nested statement => Statement.filterMap_lexemes statement

theorem Statement.filterMap_lexemes : ∀ statement : Statement,
    statement.lexemes.filterMap Lexeme.paren? = statement.parens.toList
  | .expression operator left right => by
      have hoperator : (Lexeme.operator operator).paren? = none :=
        Lexeme.paren?_of_kind TokenKind.noConfusion
      rw [Statement.lexemes, List.filterMap_append, List.filterMap_cons_none hoperator,
        Operand.filterMap_lexemes left, Operand.filterMap_lexemes right]
      rfl
  | .grouping body => by
      have hopening : Lexeme.leftParen.paren? = some U := rfl
      have hclosing : [Lexeme.rightParen].filterMap Lexeme.paren? = [D] := rfl
      rw [Statement.lexemes, List.filterMap_cons_some hopening, List.filterMap_append, hclosing,
        Statement.filterMap_lexemesEach body]
      rfl

theorem Statement.filterMap_lexemesEach : ∀ body : List Statement,
    (Statement.lexemesEach body).filterMap Lexeme.paren? = (Statement.parensEach body).toList
  | [] => rfl
  | statement :: statements => by
      rw [Statement.lexemesEach, List.filterMap_append, Statement.filterMap_lexemes statement,
        Statement.filterMap_lexemesEach statements]
      rfl

end

/-! ### Parentheses of tokens -/

namespace Lexer

/-- A character that is a token of its own is a parenthesis just if the token is. -/
theorem paren?_single (character : Char) :
    Lexeme.paren? (singleKind character, String.singleton character) = paren? character := by
  by_cases hopening : character = '('
  · rw [hopening]
    rfl
  · by_cases hclosing : character = ')'
    · rw [hclosing]
      rfl
    · rw [Lexeme.paren?, if_neg, if_neg, paren?, if_neg hopening, if_neg hclosing]
      · intro hsame
        exact hclosing (String.singleton_inj.1 (congrArg Prod.snd hsame))
      · intro hsame
        exact hopening (String.singleton_inj.1 (congrArg Prod.snd hsame))

/-- The parentheses of a text are those among its tokens. -/
theorem filterMap_tokens (characters : List Char) (offset : Nat) :
    ((⟨characters, offset⟩ : Lexer).tokens.map Token.lexeme).filterMap Lexeme.paren? =
      characters.filterMap paren? := by
  induction characters using cutInduction generalizing offset with
  | nil =>
      rw [tokens_nil]
      rfl
  | blank character rest hblank ih =>
      rw [tokens_cons_of_isWhitespace _ _ hblank, ih,
        List.filterMap_cons_none (CharClass.paren?_of_isWhitespace hblank)]
  | number character rest hdigit ih =>
      -- Neither the digit nor what it takes with it is a parenthesis.
      have hfirst : paren? character = none :=
        CharClass.paren?_of_continuesNumber (by simp [CharClass.continuesNumber, hdigit])
      have hmore : (rest.takeWhile CharClass.continuesNumber).filterMap paren? = [] := by
        apply List.filterMap_eq_nil_iff.2
        intro other hother
        exact CharClass.paren?_of_continuesNumber (List.mem_takeWhile_imp hother)
      have hrest : rest.filterMap paren? =
          (rest.dropWhile CharClass.continuesNumber).filterMap paren? := by
        rw [← List.takeWhile_append_dropWhile (p := CharClass.continuesNumber) (l := rest),
          List.filterMap_append, hmore]
        simp
      rw [tokens_cons_of_isDigit _ _ hdigit, List.map_cons,
        List.filterMap_cons_none (Lexeme.paren?_of_kind TokenKind.noConfusion), ih,
        List.filterMap_cons_none hfirst, hrest]
  | single character rest hblank hdigit ih =>
      rw [tokens_cons_of_single _ _ hblank hdigit, List.map_cons, List.filterMap_cons,
        List.filterMap_cons, ih, ← paren?_single]
      rfl

end Lexer

/-- The parentheses of a text that can be read are those of what is read. -/
theorem Reader.filterMap_of_program {source : String} {grammar : Grammar} {limit : Nat}
    {program : Program}
    (hprogram : ({ Reader.ofSource source with grammar, limit } : Reader).program = .ok program) :
    source.toList.filterMap paren? = (Statement.parensEach program.body).toList := by
  have hlexemes := (Reader.lexemes_of_program hprogram).1
  calc source.toList.filterMap paren?
      = ((tokenize source).map Token.lexeme).filterMap Lexeme.paren? :=
        (Lexer.filterMap_tokens source.toList 0).symm
    _ = program.lexemes.filterMap Lexeme.paren? := by
        rw [hlexemes]
        rfl
    _ = (Statement.parensEach program.body).toList :=
        Statement.filterMap_lexemesEach program.body

end Calculator
