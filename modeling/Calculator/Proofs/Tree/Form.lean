import Calculator.Grammar.Basic
import Calculator.Token.Basic
import Calculator.Tree.Basic

/-!
# The written form of programs

A program is written as the lexemes at its leaves, from left to right.  Not every
tree is one that a grammar writes: under precedence the text of `1 + 2 * 3` has
two trees, and only one of them is meant.  The canonical trees of a grammar are
described here by what may stand next to each operator and by what a grouping may
hold, without reference to how text is read.
-/

namespace Calculator

/-- What a token is, wherever it stands. -/
abbrev Lexeme := TokenKind × String

namespace Lexeme

def number (literal : String) : Lexeme := (.number, literal)

def operator (operator : Operator) : Lexeme := (.operator, operator.text)

def leftParen : Lexeme := (.parenthesis, "(")

def rightParen : Lexeme := (.parenthesis, ")")

end Lexeme

namespace Token

def lexeme (token : Token) : Lexeme :=
  (token.kind, token.text)

theorem lexeme_eq_number_iff {token : Token} {literal : String} :
    token.lexeme = Lexeme.number literal ↔ token.kind = .number ∧ token.text = literal := by
  simp [lexeme, Lexeme.number]

theorem lexeme_eq_leftParen_iff {token : Token} :
    token.lexeme = Lexeme.leftParen ↔ token.isLeftParen = true := by
  simp [lexeme, Lexeme.leftParen, isLeftParen]

theorem lexeme_eq_rightParen_iff {token : Token} :
    token.lexeme = Lexeme.rightParen ↔ token.isRightParen = true := by
  simp [lexeme, Lexeme.rightParen, isRightParen]

/-- A token spells an operator exactly when its lexeme is the one in which that
operator is written. -/
theorem lexeme_eq_operator_iff {token : Token} {operator : Operator} :
    token.lexeme = Lexeme.operator operator ↔ token.operator? = some operator := by
  have htext : token.text = operator.text ↔ token.text.toList = [operator.symbol] := by
    rw [← String.toList_inj, Operator.text, String.toList_singleton]
  simp only [lexeme, Lexeme.operator, Prod.mk.injEq, htext, operator?]
  by_cases hkind : token.kind = .operator
  · simp only [hkind, true_and, if_true]
    split
    · rename_i character hcharacter
      rw [hcharacter, Operator.ofSymbol?_eq_some_iff]
      simp [eq_comm]
    · rename_i hother
      simp only [reduceCtorEq, iff_false]
      intro hsingle
      exact hother _ hsingle
  · simp [hkind]

end Token

/-! ### Lexemes and depth -/

mutual

def Operand.lexemes : Operand → List Lexeme
  | .number literal => [Lexeme.number literal]
  | .nested statement => statement.lexemes

def Statement.lexemes : Statement → List Lexeme
  | .expression operator left right =>
      left.lexemes ++ Lexeme.operator operator :: right.lexemes
  | .grouping body => Lexeme.leftParen :: (Statement.lexemesEach body ++ [Lexeme.rightParen])

def Statement.lexemesEach : List Statement → List Lexeme
  | [] => []
  | statement :: statements => statement.lexemes ++ Statement.lexemesEach statements

end

def Program.lexemes (program : Program) : List Lexeme :=
  Statement.lexemesEach program.body

mutual

/-- A number has depth zero, and an expression or grouping is one deeper than its
deepest part. -/
def Operand.depth : Operand → Nat
  | .number _ => 0
  | .nested statement => statement.depth

def Statement.depth : Statement → Nat
  | .expression _ left right => max left.depth right.depth + 1
  | .grouping body => Statement.greatestDepth body + 1

def Statement.greatestDepth : List Statement → Nat
  | [] => 0
  | statement :: statements => max statement.depth (Statement.greatestDepth statements)

end

def Program.depth (program : Program) : Nat :=
  Statement.greatestDepth program.body

/-! ### How statements start -/

namespace Lexeme

/-- Every statement starts with a number or an opening parenthesis. -/
def Starts (lexeme : Lexeme) : Prop :=
  lexeme.1 = .number ∨ lexeme = leftParen

end Lexeme

mutual

theorem Operand.exists_lexemes_eq_cons : ∀ operand : Operand,
    ∃ lexeme lexemes, operand.lexemes = lexeme :: lexemes ∧ lexeme.Starts
  | .number _ => ⟨_, _, rfl, .inl rfl⟩
  | .nested statement => Statement.exists_lexemes_eq_cons statement

theorem Statement.exists_lexemes_eq_cons : ∀ statement : Statement,
    ∃ lexeme lexemes, statement.lexemes = lexeme :: lexemes ∧ lexeme.Starts
  | .expression operator left right => by
      obtain ⟨lexeme, lexemes, hleft, hstarts⟩ := Operand.exists_lexemes_eq_cons left
      rw [Statement.lexemes, hleft]
      exact ⟨lexeme, _, rfl, hstarts⟩
  | .grouping body => ⟨_, _, rfl, .inr rfl⟩

end

namespace Token

variable {token : Token}

theorem kind_ne_operator_of_starts (hstarts : token.lexeme.Starts) : token.kind ≠ .operator := by
  rcases hstarts with hkind | hparen
  · have hkind : token.kind = .number := hkind
    simp [hkind]
  · have hkind : token.kind = .parenthesis := congrArg Prod.fst hparen
    simp [hkind]

theorem kind_eq_operator_of_operator? {operator : Operator}
    (hspelled : token.operator? = some operator) : token.kind = .operator :=
  congrArg Prod.fst (lexeme_eq_operator_iff.2 hspelled)

theorem kind_ne_number_of_operator? {operator : Operator}
    (hspelled : token.operator? = some operator) : token.kind ≠ .number := by
  rw [kind_eq_operator_of_operator? hspelled]
  decide

theorem kind_ne_number_of_isLeftParen (hopening : token.isLeftParen = true) :
    token.kind ≠ .number := by
  obtain ⟨hkind, -⟩ : token.kind = .parenthesis ∧ token.text = "(" := by
    simpa [isLeftParen] using hopening
  simp [hkind]

theorem kind_ne_number_of_isRightParen (hclosing : token.isRightParen = true) :
    token.kind ≠ .number := by
  obtain ⟨hkind, -⟩ : token.kind = .parenthesis ∧ token.text = ")" := by
    simpa [isRightParen] using hclosing
  simp [hkind]

theorem isRightParen_eq_false_of_starts (hstarts : token.lexeme.Starts) :
    token.isRightParen = false := by
  rcases hstarts with hkind | hparen
  · have hkind : token.kind = .number := hkind
    simp [isRightParen, hkind]
  · obtain ⟨-, htext⟩ : token.kind = .parenthesis ∧ token.text = "(" := by
      simpa [lexeme, Lexeme.leftParen] using hparen
    simp [isRightParen, htext]

end Token

/-! ### Canonical trees -/

namespace Operand

/-- The operator of an operand that is a bare expression. -/
def operator? : Operand → Option Operator
  | .nested (.expression operator _ _) => some operator
  | _ => none

/-- The statements of an operand that is a grouping. -/
def body? : Operand → Option (List Statement)
  | .nested (.grouping body) => some body
  | _ => none

end Operand

/-- Which operands a grammar writes to the left and to the right of an operator. -/
def Grammar.Joins (grammar : Grammar) (operator : Operator) (left right : Operand) : Prop :=
  match grammar with
  | .precedence =>
      (∀ inner ∈ left.operator?, operator.precedence ≤ inner.precedence) ∧
        (∀ inner ∈ right.operator?, operator.precedence < inner.precedence) ∧
        (∀ body ∈ left.body?, body.length = 1) ∧
        ∀ body ∈ right.body?, body.length = 1
  | .rightRecursive => ∃ literal, left = .number literal

mutual

def Operand.Canonical (grammar : Grammar) : Operand → Prop
  | .number literal => literal.toList.count '.' ≤ 1
  | .nested statement => statement.Canonical grammar

def Statement.Canonical (grammar : Grammar) : Statement → Prop
  | .expression operator left right =>
      grammar.Joins operator left right ∧ left.Canonical grammar ∧ right.Canonical grammar
  | .grouping body => body ≠ [] ∧ Statement.AllCanonical grammar body

def Statement.AllCanonical (grammar : Grammar) : List Statement → Prop
  | [] => True
  | statement :: statements =>
      statement.Canonical grammar ∧ Statement.AllCanonical grammar statements

end

def Program.Canonical (grammar : Grammar) (program : Program) : Prop :=
  Statement.AllCanonical grammar program.body

end Calculator
