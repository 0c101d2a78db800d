import Calculator.Proofs.Grammar.Crowding

/-!
# Completing the start of a tree

Lexemes with which a text ends too early are the start of a tree, and a few more
complete it: a number where an operand is missing, an addition where a number
stands alone, and the parentheses that close what is open.  Each way of putting a
tree together puts a completion of its last part together to a completion of the
whole, so a completion can be built from the inside out along the calls that were
unfinished.  It never makes a tree much deeper, since it adds at most one operator.
-/

namespace Calculator

/-! ### Depth and lexemes -/

namespace Lexeme

/-- An operator or an opening parenthesis, of which there is one to every level of
depth. -/
def nests (lexeme : Lexeme) : Bool :=
  lexeme.1 = .operator || lexeme = leftParen

@[simp]
theorem nests_number (literal : String) : (number literal).nests = false := rfl

@[simp]
theorem nests_operator (operator : Operator) : (Lexeme.operator operator).nests = true := rfl

@[simp]
theorem nests_leftParen : leftParen.nests = true := rfl

@[simp]
theorem nests_rightParen : rightParen.nests = false := rfl

end Lexeme

mutual

theorem Operand.depth_le_countP : ∀ operand : Operand,
    operand.depth ≤ operand.lexemes.countP Lexeme.nests
  | .number _ => Nat.zero_le _
  | .nested statement => Statement.depth_le_countP statement

theorem Statement.depth_le_countP : ∀ statement : Statement,
    statement.depth ≤ statement.lexemes.countP Lexeme.nests
  | .expression operator left right => by
      have hleft := Operand.depth_le_countP left
      have hright := Operand.depth_le_countP right
      simp only [Statement.depth, Statement.lexemes, List.countP_append, List.countP_cons,
        Lexeme.nests_operator, if_true]
      omega
  | .grouping body => by
      have hbody := Statement.greatestDepth_le_countP body
      simp only [Statement.depth, Statement.lexemes, List.countP_append, List.countP_cons,
        Lexeme.nests_leftParen, if_true]
      omega

theorem Statement.greatestDepth_le_countP : ∀ body : List Statement,
    Statement.greatestDepth body ≤ (Statement.lexemesEach body).countP Lexeme.nests
  | [] => Nat.zero_le _
  | first :: others => by
      have hfirst := Statement.depth_le_countP first
      have hothers := Statement.greatestDepth_le_countP others
      simp only [Statement.greatestDepth, Statement.lexemesEach, List.countP_append]
      omega

end

/-! ### What completes a tree -/

/-- The lexemes that are used to complete a text. -/
def Lexeme.Finishes (lexeme : Lexeme) : Prop :=
  lexeme = Lexeme.number "1" ∨ lexeme = Lexeme.operator .add ∨ lexeme = Lexeme.rightParen

structure Finishing (more : List Lexeme) : Prop where
  finishes : ∀ lexeme ∈ more, lexeme.Finishes
  nests : more.countP Lexeme.nests ≤ 1

namespace Finishing

variable {more : List Lexeme}

theorem nil : Finishing [] :=
  ⟨by simp, Nat.zero_le _⟩

theorem number : Finishing [Lexeme.number "1"] :=
  ⟨by simp [Lexeme.Finishes], by simp⟩

theorem append_rightParen (hmore : Finishing more) : Finishing (more ++ [Lexeme.rightParen]) := by
  refine ⟨?_, ?_⟩
  · intro lexeme hlexeme
    rcases List.mem_append.1 hlexeme with hmem | hlast
    · exact hmore.finishes lexeme hmem
    · exact .inr (.inr (List.mem_singleton.1 hlast))
  · simpa using hmore.nests

theorem append_addition (hmore : Finishing more) (hnone : more.countP Lexeme.nests = 0) :
    Finishing (more ++ [Lexeme.operator .add, Lexeme.number "1"]) := by
  refine ⟨?_, by simp [hnone, List.countP_cons]⟩
  intro lexeme hlexeme
  rcases List.mem_append.1 hlexeme with hmem | hlast
  · exact hmore.finishes lexeme hmem
  · rcases List.mem_cons.1 hlast with rfl | hlast
    · exact .inr (.inl rfl)
    · exact .inl (List.mem_singleton.1 hlast)

end Finishing

/-- Some lexemes and a few more are a canonical operand. -/
structure Completes (grammar : Grammar) (operand : Operand) (lexemes more : List Lexeme) :
    Prop where
  lexemes_eq : operand.lexemes = lexemes ++ more
  finishing : Finishing more
  canonical : operand.Canonical grammar

/-- Some lexemes and a few more are a list of canonical statements. -/
structure CompletesEach (grammar : Grammar) (body : List Statement)
    (lexemes more : List Lexeme) : Prop where
  lexemes_eq : Statement.lexemesEach body = lexemes ++ more
  finishing : Finishing more
  canonical : Statement.AllCanonical grammar body

namespace Completes

variable {grammar : Grammar} {operand right : Operand} {lexemes more : List Lexeme}

theorem of_canonical (hcanonical : operand.Canonical grammar) :
    Completes grammar operand operand.lexemes [] :=
  ⟨(List.append_nil _).symm, Finishing.nil, hcanonical⟩

theorem missing (grammar : Grammar) :
    Completes grammar (.number "1") [] [Lexeme.number "1"] :=
  ⟨rfl, Finishing.number, by simp [Operand.Canonical]⟩

theorem expression {operator : Operator} {left : Operand}
    (hright : Completes grammar right lexemes more) (hleft : left.Canonical grammar)
    (hjoins : grammar.Joins operator left right) :
    Completes grammar (.nested (.expression operator left right))
      (left.lexemes ++ Lexeme.operator operator :: lexemes) more := by
  refine ⟨?_, hright.finishing, hjoins, hleft, hright.canonical⟩
  simp [Operand.lexemes, Statement.lexemes, hright.lexemes_eq]

theorem joins_numbers (operator : Operator) (first second : String) :
    grammar.Joins operator (.number first) (.number second) := by
  cases grammar with
  | precedence => simp [Grammar.Joins, Operand.operator?, Operand.body?]
  | rightRecursive => exact ⟨first, rfl⟩

/-- A number is no statement, but becomes one by an addition. -/
theorem exists_statement (hoperand : Completes grammar operand lexemes more) :
    ∃ statement others, Completes grammar (.nested statement) lexemes others := by
  cases operand with
  | nested statement => exact ⟨statement, more, hoperand⟩
  | number literal =>
      refine ⟨.expression .add (.number literal) (.number "1"), _, ?_,
        hoperand.finishing.append_addition ?_, joins_numbers _ _ _, hoperand.canonical,
        (missing grammar).canonical⟩
      · simp only [Operand.lexemes, Statement.lexemes, ← List.append_assoc,
          ← hoperand.lexemes_eq]
      · have hcount := congrArg (List.countP Lexeme.nests) hoperand.lexemes_eq
        rw [List.countP_append] at hcount
        have hnone : (Operand.number literal).lexemes.countP Lexeme.nests = 0 := rfl
        omega

end Completes

namespace CompletesEach

variable {grammar : Grammar} {body : List Statement} {lexemes more : List Lexeme}

theorem single {statement : Statement}
    (hstatement : Completes grammar (.nested statement) lexemes more) :
    CompletesEach grammar [statement] lexemes more := by
  refine ⟨?_, hstatement.finishing, hstatement.canonical, trivial⟩
  rw [← hstatement.lexemes_eq]
  simp [Statement.lexemesEach, Operand.lexemes]

theorem cons {first : Statement} (hfirst : first.Canonical grammar)
    (hothers : CompletesEach grammar body lexemes more) :
    CompletesEach grammar (first :: body) (first.lexemes ++ lexemes) more := by
  refine ⟨?_, hothers.finishing, hfirst, hothers.canonical⟩
  rw [Statement.lexemesEach, hothers.lexemes_eq, List.append_assoc]

theorem grouping (hbody : CompletesEach grammar body lexemes more) (hnonempty : body ≠ []) :
    Completes grammar (.nested (.grouping body)) (Lexeme.leftParen :: lexemes)
      (more ++ [Lexeme.rightParen]) := by
  refine ⟨?_, hbody.finishing.append_rightParen, hnonempty, hbody.canonical⟩
  simp [Operand.lexemes, Statement.lexemes, hbody.lexemes_eq]

/-- The first lexeme of a body is the start of a statement. -/
theorem starts {lexeme : Lexeme}
    (hbody : CompletesEach grammar body (lexeme :: lexemes) more) : lexeme.Starts := by
  have hlexemes := hbody.lexemes_eq
  cases body with
  | nil => simp [Statement.lexemesEach] at hlexemes
  | cons first others =>
      obtain ⟨start, rest, hfirst, hstarts⟩ := first.exists_lexemes_eq_cons
      simp only [Statement.lexemesEach, hfirst, List.cons_append, List.cons.injEq] at hlexemes
      rwa [← hlexemes.1]

end CompletesEach

end Calculator
