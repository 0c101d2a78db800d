import Calculator.Proofs.Token.Append
import Calculator.Proofs.Tree.Form

/-!
# Crowded operands

Under precedence a grouping that is an operand holds a single statement, but how
many statements it holds is looked at only once it is closed.  So there are texts
that have gone wrong without having been found out: an operand is still open in
which a second statement has begun, and nothing that follows can take it back.
These texts are told from others by a scan of their lexemes from left to right,
which keeps no more than the groupings that are open and what stands before the
place that it has come to.
-/

namespace Calculator

/-- What stands before a place in a text. -/
inductive Outline.Place where
  | start
  | behindOperator
  | behindOperand
deriving DecidableEq, Repr

/-- What a scan keeps of a text.  For each open grouping, the innermost one first,
`operands` says whether it stands behind an operator.  What has once become
`crowded` stays so. -/
structure Outline where
  operands : List Bool
  place : Outline.Place
  crowded : Bool
deriving DecidableEq, Repr

namespace Outline

/-- The innermost open grouping is an operand and already holds a statement. -/
def full (outline : Outline) : Bool :=
  outline.place = .behindOperand && outline.operands.head? = some true

/-- Moves over a lexeme.  With a number or an opening parenthesis something begins,
which is one statement too many if the operand is full. -/
def read (outline : Outline) (lexeme : Lexeme) : Outline :=
  if lexeme.1 = .number then
    ⟨outline.operands, .behindOperand, outline.crowded || outline.full⟩
  else if lexeme.1 = .operator then { outline with place := .behindOperator }
  else if lexeme = Lexeme.leftParen then
    ⟨decide (outline.place = .behindOperator) :: outline.operands, .start,
      outline.crowded || outline.full⟩
  else if lexeme = Lexeme.rightParen then
    { outline with operands := outline.operands.tail, place := .behindOperand }
  else outline

def readAll (outline : Outline) (lexemes : List Lexeme) : Outline :=
  lexemes.foldl read outline

def ofLexemes (lexemes : List Lexeme) : Outline :=
  readAll ⟨[], .start, false⟩ lexemes

variable (outline : Outline)

theorem read_of_number {lexeme : Lexeme} (hkind : lexeme.1 = .number) :
    outline.read lexeme =
      ⟨outline.operands, .behindOperand, outline.crowded || outline.full⟩ := by
  rw [read, if_pos hkind]

@[simp]
theorem read_number (literal : String) :
    outline.read (Lexeme.number literal) =
      ⟨outline.operands, .behindOperand, outline.crowded || outline.full⟩ :=
  outline.read_of_number rfl

@[simp]
theorem read_operator (operator : Operator) :
    outline.read (Lexeme.operator operator) = { outline with place := .behindOperator } := rfl

@[simp]
theorem read_leftParen :
    outline.read Lexeme.leftParen =
      ⟨decide (outline.place = .behindOperator) :: outline.operands, .start,
        outline.crowded || outline.full⟩ := rfl

@[simp]
theorem read_rightParen :
    outline.read Lexeme.rightParen =
      { outline with operands := outline.operands.tail, place := .behindOperand } := rfl

@[simp]
theorem readAll_nil : outline.readAll [] = outline := rfl

@[simp]
theorem readAll_cons (lexeme : Lexeme) (lexemes : List Lexeme) :
    outline.readAll (lexeme :: lexemes) = (outline.read lexeme).readAll lexemes := rfl

@[simp]
theorem readAll_append (first second : List Lexeme) :
    outline.readAll (first ++ second) = (outline.readAll first).readAll second :=
  List.foldl_append

variable {outline}

theorem full_eq_false_of_place (hplace : outline.place ≠ .behindOperand) :
    outline.full = false := by
  simp [full, hplace]

theorem full_eq_false_of_head? (hoperand : outline.operands.head? ≠ some true) :
    outline.full = false := by
  simp [full, hoperand]

theorem crowded_read (lexeme : Lexeme) (hcrowded : outline.crowded = true) :
    (outline.read lexeme).crowded = true := by
  rw [read]
  split_ifs <;> simp [hcrowded]

theorem crowded_readAll (lexemes : List Lexeme) (hcrowded : outline.crowded = true) :
    (outline.readAll lexemes).crowded = true := by
  induction lexemes generalizing outline with
  | nil => exact hcrowded
  | cons lexeme lexemes ih => exact ih (crowded_read lexeme hcrowded)

/-- A number that grows is a number, so a text is no less crowded when it goes on. -/
theorem crowded_of_continued {tokens longer : List Token} (hcontinued : Continued tokens longer)
    (hcrowded : (outline.readAll (tokens.map Token.lexeme)).crowded = true) :
    (outline.readAll (longer.map Token.lexeme)).crowded = true := by
  induction hcontinued generalizing outline with
  | nil more => exact crowded_readAll _ hcrowded
  | @grown last grown more hlast hkind _ _ =>
      have hsame : outline.read grown.lexeme = outline.read last.lexeme :=
        (outline.read_of_number hkind).trans (outline.read_of_number hlast).symm
      rw [List.map_cons, readAll_cons, hsame]
      exact crowded_readAll _ hcrowded
  | cons token _ ih => exact ih hcrowded

/-- A statement that begins in a full operand crowds it. -/
theorem crowded_read_of_full {lexeme : Lexeme} (hfull : outline.full = true)
    (hstarts : lexeme.Starts) : (outline.read lexeme).crowded = true := by
  rcases hstarts with hkind | rfl
  · simp [outline.read_of_number hkind, hfull]
  · simp [hfull]

end Outline

/-! ### Canonical trees are not crowded -/

/-- An operand that is a grouping has a single statement, as it must behind an
operator. -/
def Operand.Single (operand : Operand) : Prop :=
  ∀ body ∈ operand.body?, body.length = 1

mutual

/-- Where nothing is full, a tree is passed over and only the place changes. -/
theorem Operand.readAll_lexemes : ∀ (operand : Operand) (outline : Outline),
    operand.Canonical .precedence → outline.full = false →
    (outline.place = .behindOperator → operand.Single) →
    outline.readAll operand.lexemes = { outline with place := .behindOperand }
  | .number literal, outline, _, hfull, _ => by
      simp [Operand.lexemes, hfull]
  | .nested statement, outline, hcanonical, hfull, hsingle =>
      Statement.readAll_lexemes statement outline hcanonical hfull hsingle

theorem Statement.readAll_lexemes : ∀ (statement : Statement) (outline : Outline),
    statement.Canonical .precedence → outline.full = false →
    (outline.place = .behindOperator → (Operand.nested statement).Single) →
    outline.readAll statement.lexemes = { outline with place := .behindOperand }
  | .expression operator left right, outline, hcanonical, hfull, _ => by
      obtain ⟨⟨-, -, hleftSingle, hrightSingle⟩, hleft, hright⟩ := hcanonical
      have hbehind : ({ outline with place := .behindOperator } : Outline).full = false :=
        Outline.full_eq_false_of_place (by simp)
      rw [Statement.lexemes, Outline.readAll_append,
        Operand.readAll_lexemes left outline hleft hfull fun _ => hleftSingle,
        Outline.readAll_cons, Outline.read_operator,
        Operand.readAll_lexemes right _ hright hbehind fun _ => hrightSingle]
  | .grouping body, outline, hcanonical, hfull, hsingle => by
      have hbody : decide (outline.place = .behindOperator) = false ∨ body.length = 1 := by
        by_cases hplace : outline.place = .behindOperator
        · exact .inr (hsingle hplace body rfl)
        · exact .inl (decide_eq_false hplace)
      obtain ⟨place, hread⟩ := Statement.readAll_lexemesEach body
        ⟨decide (outline.place = .behindOperator) :: outline.operands, .start, outline.crowded⟩
        hcanonical.2 (by simp) (hbody.imp (by simp) fun hone => ⟨rfl, Nat.le_of_eq hone⟩)
      simp [Statement.lexemes, hfull, hread]

/-- The statements of a grouping are passed over, several of them only if it is no
operand. -/
theorem Statement.readAll_lexemesEach : ∀ (body : List Statement) (outline : Outline),
    Statement.AllCanonical .precedence body → outline.place ≠ .behindOperator →
    outline.operands.head? ≠ some true ∨ outline.place = .start ∧ body.length ≤ 1 →
    ∃ place, outline.readAll (Statement.lexemesEach body) = { outline with place }
  | [], outline, _, _, _ => ⟨outline.place, rfl⟩
  | first :: others, outline, hcanonical, hplace, hroom => by
      have hfull : outline.full = false := by
        rcases hroom with hhead | ⟨hstart, -⟩
        · exact Outline.full_eq_false_of_head? hhead
        · exact Outline.full_eq_false_of_place (by simp [hstart])
      have hfirst := Statement.readAll_lexemes first outline hcanonical.1 hfull
        fun hoperator => absurd hoperator hplace
      have hrest : outline.operands.head? ≠ some true ∨ others = [] := by
        refine hroom.imp id fun hone => ?_
        simpa using hone.2
      rw [Statement.lexemesEach, Outline.readAll_append, hfirst]
      rcases hrest with hhead | rfl
      · exact Statement.readAll_lexemesEach others _ hcanonical.2 (by simp) (.inl hhead)
      · exact ⟨.behindOperand, rfl⟩

end

theorem Program.crowded_eq_false {program : Program} (hcanonical : program.Canonical .precedence) :
    (Outline.ofLexemes program.lexemes).crowded = false := by
  obtain ⟨place, hread⟩ := Statement.readAll_lexemesEach program.body ⟨[], .start, false⟩
    hcanonical (by simp) (.inl (by simp))
  rw [Outline.ofLexemes, Program.lexemes, hread]

/-! ### Lexemes that crowd an operand -/

/-- Wherever the lexemes stand, there is a crowded operand among them. -/
def Crowds (lexemes : List Lexeme) : Prop :=
  ∀ outline : Outline, (outline.readAll lexemes).crowded = true

/-- There is a crowded operand among the lexemes if they stand behind an operator. -/
def CrowdsAsOperand (lexemes : List Lexeme) : Prop :=
  ∀ outline : Outline, outline.place = .behindOperator →
    (outline.readAll lexemes).crowded = true

/-- Behind a statement another one has begun. -/
def SecondBegun (grammar : Grammar) (lexemes : List Lexeme) : Prop :=
  ∃ first next others, first.Canonical grammar ∧ next.Starts ∧
    lexemes = Statement.lexemes first ++ next :: others

theorem Crowds.append_left {lexemes : List Lexeme} (hcrowds : Crowds lexemes)
    (first : List Lexeme) : Crowds (first ++ lexemes) := by
  intro outline
  rw [Outline.readAll_append]
  exact hcrowds _

theorem Crowds.crowdsAsOperand {lexemes : List Lexeme} (hcrowds : Crowds lexemes) :
    CrowdsAsOperand lexemes :=
  fun outline _ => hcrowds outline

namespace CrowdsAsOperand

variable {lexemes : List Lexeme}

theorem cons_operator (hcrowds : CrowdsAsOperand lexemes) (operator : Operator) :
    Crowds (Lexeme.operator operator :: lexemes) := by
  intro outline
  rw [Outline.readAll_cons, Outline.read_operator]
  exact hcrowds _ rfl

/-- A number is no open operand, so what is crowded behind it is so in any place. -/
theorem crowds_of_number {lexeme : Lexeme} (hcrowds : CrowdsAsOperand (lexeme :: lexemes))
    (hkind : lexeme.1 = .number) : Crowds (lexeme :: lexemes) := by
  intro outline
  have hbehind := hcrowds { outline with place := .behindOperator } rfl
  rw [Outline.readAll_cons, Outline.read_of_number _ hkind] at hbehind ⊢
  cases hfull : outline.full with
  | true => exact Outline.crowded_readAll _ (by simp)
  | false => simpa [Outline.full] using hbehind

/-- A grouping behind an operator is crowded once a second statement has begun. -/
theorem of_secondBegun (hsecond : SecondBegun .precedence lexemes) :
    CrowdsAsOperand (Lexeme.leftParen :: lexemes) := by
  obtain ⟨first, next, others, hcanonical, hstarts, rfl⟩ := hsecond
  intro outline hplace
  rw [Outline.readAll_cons, Outline.read_leftParen, Outline.readAll_append,
    first.readAll_lexemes _ hcanonical (Outline.full_eq_false_of_place (by simp)) (by simp),
    Outline.readAll_cons]
  apply Outline.crowded_readAll
  apply Outline.crowded_read_of_full _ hstarts
  simp [Outline.full, hplace]

end CrowdsAsOperand

end Calculator
