import Calculator.Proofs.Session.Evaluation
import Calculator.Proofs.Text.Legible

/-!
# The text of a program shows its shape

The text of a tree has a bracket for every expression and every grouping.  A statement is
legible whatever follows it: its first bracket tells an expression from a grouping, and
the parts of it are legible in turn.  An operand need not start with a bracket, but if
literals are made of digits and dots, the blank or the bracket behind an operand shows
where a literal ends.  So programs with such literals are the same if their texts are,
empty groupings and the empty program included, and all programs that are read from
source text are of this sort.
-/

namespace Calculator

open Text

/-- All characters of the literals are digits or dots. -/
def Plain (literals : List String) : Prop :=
  ∀ literal ∈ literals, ∀ character ∈ literal.toList, CharClass.continuesNumber character = true

instance (literals : List String) : Decidable (Plain literals) :=
  decidable_of_iff (literals.all (·.toList.all CharClass.continuesNumber) = true)
    (by simp only [Plain, List.all_eq_true])

theorem plain_append_iff {first second : List String} :
    Plain (first ++ second) ↔ Plain first ∧ Plain second :=
  List.forall_mem_append

theorem Plain.of_mem_literalsEach {body : List Statement} {statement : Statement}
    (hplain : Plain (Statement.literalsEach body)) (hmem : statement ∈ body) :
    Plain statement.literals := by
  induction body with
  | nil => exact absurd hmem List.not_mem_nil
  | cons first others ih =>
      obtain ⟨hfirst, hothers⟩ := plain_append_iff.1 hplain
      rcases List.mem_cons.1 hmem with rfl | hmem
      · exact hfirst
      · exact ih hothers hmem

/-! ### Brackets -/

/-- The brackets with which statements open. -/
def OpensStatement (character : Char) : Prop :=
  character = '(' ∨ character = '['

theorem Statement.exists_head?_writeBefore (statement : Statement) (rest : List Char) :
    ∃ character ∈ (statement.writeBefore rest).head?, OpensStatement character := by
  cases statement with
  | expression operator left right => exact ⟨'(', rfl, .inl rfl⟩
  | grouping body => exact ⟨'[', rfl, .inr rfl⟩

/-- Behind an operand stands the blank before an operator or the bracket that closes an
expression. -/
def FollowsOperand (rest : List Char) : Prop :=
  ∃ character ∈ rest.head?, character = ' ' ∨ character = ')'

theorem FollowsOperand.leaves {rest : List Char} (hrest : FollowsOperand rest) :
    Leaves CharClass.continuesNumber rest := by
  obtain ⟨_, hhead, rfl | rfl⟩ := hrest
  · intro other hother
    obtain rfl := Option.mem_unique hhead hother
    decide
  · intro other hother
    obtain rfl := Option.mem_unique hhead hother
    decide

/-- A literal never starts as a statement does, not even an empty one. -/
theorem Statement.writeBefore_ne_literal {literal : String} (hplain : Plain [literal])
    {rest : List Char} (hrest : FollowsOperand rest) (statement : Statement)
    (remainder : List Char) : literal.toList ++ rest ≠ statement.writeBefore remainder := by
  intro htext
  obtain ⟨bracket, hbracket, hopens⟩ := statement.exists_head?_writeBefore remainder
  rw [← htext] at hbracket
  have hliteral := hplain literal List.mem_cons_self
  cases hcharacters : literal.toList with
  | nil =>
      rw [hcharacters, List.nil_append] at hbracket
      obtain ⟨character, hhead, hfollows⟩ := hrest
      obtain rfl := Option.mem_unique hhead hbracket
      rcases hopens with rfl | rfl <;> revert hfollows <;> decide
  | cons first more =>
      rw [hcharacters] at hbracket hliteral
      obtain rfl : first = bracket := Option.some.inj hbracket
      have hfirst := hliteral first List.mem_cons_self
      rcases hopens with rfl | rfl <;> revert hfirst <;> decide

theorem Statement.writeEachBefore_eq (separator : List Char) (body : List Statement)
    (rest : List Char) :
    Statement.writeEachBefore separator body rest =
      Text.writeEachBefore Statement.writeBefore separator body rest :=
  eq_writeEachBefore (fun _ => rfl) (fun _ _ => rfl) (fun _ _ _ _ => rfl) body rest

/-- Statements are legible in a list if they are so each alone. -/
theorem Statement.legible_writeEachBefore {mark : Char} {blank : List Char}
    {body : List Statement}
    (hbody : ∀ statement ∈ body, Legible Statement.writeBefore
      (fun other => Plain other.literals) (fun _ => True) statement) :
    Legible (Statement.writeEachBefore (mark :: blank))
      (fun others => Plain (Statement.literalsEach others))
      (Closes (fun _ => True) mark OpensStatement) body := by
  intro others hothers rest remainder hrest hremainder htext
  rw [Statement.writeEachBefore_eq, Statement.writeEachBefore_eq] at htext
  exact Text.legible_writeEachBefore (fun _ => trivial) Statement.exists_head?_writeBefore hbody
    (fun _ hmem => hothers.of_mem_literalsEach hmem) hrest hremainder htext

theorem closes_of_bracket (rest : List Char) :
    Closes (fun _ => True) ';' OpensStatement (']' :: rest) :=
  closes_cons trivial (by decide) (by simp [OpensStatement])

theorem closes_nil : Closes (fun _ => True) '\n' OpensStatement [] where
  follows := trivial
  no_mark := by simp
  no_item := by simp

/-! ### Trees -/

mutual

theorem Operand.legible : ∀ {operand : Operand}, Plain operand.literals →
    Legible Operand.writeBefore (fun other => Plain other.literals) FollowsOperand operand
  | .number literal, hplain, .number spelled, hspelled, rest, remainder, hrest, hremainder,
      htext => by
      obtain ⟨hliteral, hends⟩ := legible_run CharClass.continuesNumber
        (hplain literal List.mem_cons_self) (hspelled spelled List.mem_cons_self) hrest.leaves
        hremainder.leaves htext
      exact ⟨congrArg Operand.number (String.toList_inj.1 hliteral), hends⟩
  | .number _, hplain, .nested statement, _, _, remainder, hrest, _, htext =>
      absurd htext (statement.writeBefore_ne_literal hplain hrest remainder)
  | .nested statement, _, .number _, hspelled, rest, _, _, hremainder, htext =>
      absurd htext.symm (statement.writeBefore_ne_literal hspelled hremainder rest)
  | .nested _, hplain, .nested _, hother, _, _, _, _, htext => by
      obtain ⟨hstatement, hends⟩ := Statement.legible hplain hother trivial trivial htext
      exact ⟨congrArg Operand.nested hstatement, hends⟩

/-- A statement is known from its text, whatever follows it. -/
theorem Statement.legible : ∀ {statement : Statement}, Plain statement.literals →
    Legible Statement.writeBefore (fun other => Plain other.literals) (fun _ => True) statement
  | .expression operator left right, hplain, .expression symbol first second, hother, rest,
      remainder, _, _, htext => by
      obtain ⟨hleft, hright⟩ := plain_append_iff.1 hplain
      obtain ⟨hfirst, hsecond⟩ := plain_append_iff.1 hother
      obtain ⟨rfl, hbehind⟩ := Operand.legible hleft hfirst ⟨' ', rfl, .inl rfl⟩
        ⟨' ', rfl, .inl rfl⟩ (List.cons.inj htext).2
      obtain ⟨hsymbol, hblank⟩ := List.cons.inj (List.cons.inj hbehind).2
      obtain rfl := Operator.symbol_injective hsymbol
      obtain ⟨rfl, hends⟩ := Operand.legible hright hsecond ⟨')', rfl, .inr rfl⟩
        ⟨')', rfl, .inr rfl⟩ (List.cons.inj hblank).2
      exact ⟨rfl, (List.cons.inj hends).2⟩
  | .expression .., _, .grouping _, _, _, _, _, _, htext =>
      absurd (List.cons.inj htext).1 (by decide)
  | .grouping _, _, .expression .., _, _, _, _, _, htext =>
      absurd (List.cons.inj htext).1 (by decide)
  | .grouping _, hplain, .grouping _, hother, rest, remainder, _, _, htext => by
      obtain ⟨rfl, hends⟩ := Statement.legible_writeEachBefore (Statement.legible_of_mem hplain)
        hother (closes_of_bracket rest) (closes_of_bracket remainder) (List.cons.inj htext).2
      exact ⟨rfl, (List.cons.inj hends).2⟩

theorem Statement.legible_of_mem : ∀ {body : List Statement},
    Plain (Statement.literalsEach body) → ∀ statement ∈ body,
      Legible Statement.writeBefore (fun other => Plain other.literals) (fun _ => True) statement
  | [], _ => List.forall_mem_nil _
  | _ :: _, hplain => by
      obtain ⟨hfirst, hothers⟩ := plain_append_iff.1 hplain
      exact List.forall_mem_cons.2
        ⟨Statement.legible hfirst, Statement.legible_of_mem hothers⟩

end

/-! ### Programs -/

theorem Program.plain_of_parse {source : String} {grammar : Grammar} {program : Program}
    (hparse : parse source grammar = .ok program) : Plain program.literals := by
  obtain ⟨hlexemes, hcanonical, -⟩ := Reader.lexemes_of_program hparse
  intro literal hmem
  obtain ⟨hlexeme, -⟩ := Statement.literal_of_allCanonical hcanonical hmem
  have hwritten : Lexeme.number literal ∈ (tokenize source).map Token.lexeme :=
    hlexemes ▸ hlexeme
  obtain ⟨token, htoken, hspelled⟩ := List.mem_map.1 hwritten
  obtain ⟨hkind, rfl⟩ := Token.lexeme_eq_number_iff.1 hspelled
  obtain ⟨first, more, htext, hdigit, hmore⟩ := Lexer.numeral_of_mem_tokens htoken hkind
  rw [htext]
  refine List.forall_mem_cons.2 ⟨?_, hmore⟩
  simp [CharClass.continuesNumber, hdigit]

/-- Programs whose literals are made of digits and dots are the same if their texts are,
whatever their statements and however deep.  Programs that are read from source text have
such literals. -/
theorem text_determines_program :
    (∀ first second : Program, Plain first.literals → Plain second.literals →
      first.text = second.text → first = second) ∧
    ∀ (source : String) (grammar : Grammar) (program : Program),
      parse source grammar = .ok program → Plain program.literals := by
  refine ⟨?_, fun _ _ _ hparse => Program.plain_of_parse hparse⟩
  rintro ⟨first⟩ ⟨second⟩ hfirst hsecond htext
  have hcharacters := String.ofList_injective htext
  obtain ⟨hbody, -⟩ := Statement.legible_writeEachBefore (Statement.legible_of_mem hfirst)
    hsecond closes_nil closes_nil hcharacters
  exact congrArg Program.mk hbody

/-- What has been read from `(1+2.5) 3*4` is known from its text. -/
theorem text_determines_program_of_two_statements :
    let program : Program :=
      ⟨[.grouping [.expression .add (.number "1") (.number "2.5")],
        .expression .multiply (.number "3") (.number "4")]⟩
    Plain program.literals ∧ program.text = "[(1 + 2.5)]\n(3 * 4)" ∧
      parse "(1+2.5) 3*4" .precedence = .ok program := by
  intro program
  have hplain : Plain program.literals := by decide
  have htext : program.text = "[(1 + 2.5)]\n(3 * 4)" := by decide +kernel
  refine ⟨hplain, htext, ?_⟩
  have hshown : ∃ read, parse "(1+2.5) 3*4" .precedence = .ok read ∧ read.text = program.text := by
    have hparse : (parse "(1+2.5) 3*4" .precedence).toOption.map Program.text =
        some "[(1 + 2.5)]\n(3 * 4)" := by decide +kernel
    rw [htext]
    cases hread : parse "(1+2.5) 3*4" .precedence with
    | error error => simp [hread, Except.toOption] at hparse
    | ok read => exact ⟨read, rfl, by simpa [hread, Except.toOption] using hparse⟩
  obtain ⟨read, hread, hsame⟩ := hshown
  have hreadPlain := text_determines_program.2 _ _ _ hread
  rw [hread, text_determines_program.1 read program hreadPlain hplain hsame]

/-- Literals with blanks in them could not be told from operators. -/
example :
    (⟨[.expression .add (.number "1 + 2") (.number "3")]⟩ : Program).text =
      (⟨[.expression .add (.number "1") (.number "2 + 3")]⟩ : Program).text := by
  decide

end Calculator
