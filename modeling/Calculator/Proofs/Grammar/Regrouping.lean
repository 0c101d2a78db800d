import Calculator.Code.Lowering
import Calculator.Proofs.Grammar.Acceptance
import Calculator.Proofs.Grammar.Crowding
import Mathlib

/-!
# From chains to precedence

The right-recursive grammar reads a chain of operators as one tree that leans to the
right.  The same tokens have a tree under precedence, which is made here from the chain
by taking its links from left to right: each operator goes as far up at the right edge
of the tree made so far as its precedence lets it.  Every link adds at most one level,
and the chain itself has a level for each, so the tree under precedence is never the
deeper one and no limit that admits the chain keeps it out.
-/

namespace Calculator

/-! ### Regrouping -/

/-- Adds an operator and the operand behind it to a tree.  The operator takes the whole
tree for its left operand unless it binds tighter than the operator at the root, from
which it then takes the right operand. -/
def Operand.attach : Operand → Operator → Operand → Statement
  | .nested (.expression outer left right), operator, leaf =>
      if operator.precedence ≤ outer.precedence then
        .expression operator (.nested (.expression outer left right)) leaf
      else .expression outer left (.nested (right.attach operator leaf))
  | operand, operator, leaf => .expression operator operand leaf

mutual

/-- Adds an operator and the chain behind it to a tree, link by link. -/
def Operand.attachTo : Operand → Operand → Operator → Statement
  | .number literal, tree, operator => tree.attach operator (.number literal)
  | .nested (.grouping body), tree, operator =>
      tree.attach operator (.nested (.grouping (Statement.regroupEach body)))
  | .nested (.expression next first rest), tree, operator =>
      rest.attachTo (.nested (tree.attach operator first)) next

/-- The tree under precedence of a statement that was read as a chain. -/
def Statement.regroup : Statement → Statement
  | .expression operator left right => right.attachTo left operator
  | .grouping body => .grouping (Statement.regroupEach body)

def Statement.regroupEach : List Statement → List Statement
  | [] => []
  | statement :: statements => statement.regroup :: Statement.regroupEach statements

end

def Program.regroup (program : Program) : Program :=
  ⟨Statement.regroupEach program.body⟩

/-! ### Nestings -/

/-- A grouping without its numbers and operators: for each of its statements, the
groupings in it from left to right. -/
inductive Nesting where
  | grouping (statements : List (List Nesting))

mutual

def Operand.nesting : Operand → List Nesting
  | .number _ => []
  | .nested statement => statement.nesting

/-- The groupings in a statement from left to right. -/
def Statement.nesting : Statement → List Nesting
  | .expression _ left right => left.nesting ++ right.nesting
  | .grouping body => [.grouping (Statement.nestingEach body)]

def Statement.nestingEach : List Statement → List (List Nesting)
  | [] => []
  | statement :: statements => statement.nesting :: Statement.nestingEach statements

end

/-- How many statements the program and each of its groupings have, in order. -/
def Program.nesting (program : Program) : List (List Nesting) :=
  Statement.nestingEach program.body

/-! ### Properties of all expressions -/

mutual

def Operand.Everywhere (holds : Operator → Operand → Operand → Prop) : Operand → Prop
  | .number _ => True
  | .nested statement => statement.Everywhere holds

/-- Every expression in the tree, however deep, has the property. -/
def Statement.Everywhere (holds : Operator → Operand → Operand → Prop) : Statement → Prop
  | .expression operator left right =>
      holds operator left right ∧ left.Everywhere holds ∧ right.Everywhere holds
  | .grouping body => Statement.EverywhereEach holds body

def Statement.EverywhereEach (holds : Operator → Operand → Operand → Prop) :
    List Statement → Prop
  | [] => True
  | statement :: statements =>
      statement.Everywhere holds ∧ Statement.EverywhereEach holds statements

end

namespace Operand

def BothSingle (_ : Operator) (left right : Operand) : Prop :=
  left.Single ∧ right.Single

/-- The right operand is no bare expression. -/
def OneLink (_ : Operator) (_ right : Operand) : Prop :=
  right.operator? = none

end Operand

namespace Program

/-- Every grouping that is used as an operand holds exactly one statement. -/
def SingleOperands (program : Program) : Prop :=
  Statement.EverywhereEach Operand.BothSingle program.body

/-- No expression has a bare expression for its right operand. -/
def Unchained (program : Program) : Prop :=
  Statement.EverywhereEach Operand.OneLink program.body

end Program

/-! ### Nothing is lost -/

namespace Operand

variable (tree leaf : Operand) (operator : Operator)

theorem lexemes_attach :
    (tree.attach operator leaf).lexemes =
      tree.lexemes ++ Lexeme.operator operator :: leaf.lexemes := by
  fun_induction Operand.attach tree operator leaf with
  | case1 => rfl
  | case2 outer left right operator leaf _ ih =>
      simp only [Statement.lexemes, Operand.lexemes, ih, List.append_assoc, List.cons_append]
  | case3 => rfl

theorem nesting_attach :
    (tree.attach operator leaf).nesting = tree.nesting ++ leaf.nesting := by
  fun_induction Operand.attach tree operator leaf with
  | case1 => rfl
  | case2 outer left right operator leaf _ ih =>
      simp only [Statement.nesting, Operand.nesting, ih, List.append_assoc]
  | case3 => rfl

end Operand

mutual

theorem Operand.lexemes_attachTo : ∀ (chain tree : Operand) (operator : Operator),
    (chain.attachTo tree operator).lexemes =
      tree.lexemes ++ Lexeme.operator operator :: chain.lexemes
  | .number literal, tree, operator => by
      rw [Operand.attachTo, Operand.lexemes_attach]
  | .nested (.grouping body), tree, operator => by
      rw [Operand.attachTo, Operand.lexemes_attach, Operand.lexemes, Statement.lexemes,
        Statement.lexemesEach_regroupEach body]
      rfl
  | .nested (.expression next first rest), tree, operator => by
      rw [Operand.attachTo, Operand.lexemes_attachTo rest, Operand.lexemes,
        Operand.lexemes_attach]
      simp only [Operand.lexemes, Statement.lexemes, List.append_assoc, List.cons_append]

/-- Regrouping moves no token. -/
theorem Statement.lexemes_regroup : ∀ statement : Statement,
    statement.regroup.lexemes = statement.lexemes
  | .expression operator left right => Operand.lexemes_attachTo right left operator
  | .grouping body => by
      rw [Statement.regroup, Statement.lexemes, Statement.lexemesEach_regroupEach body]
      rfl

theorem Statement.lexemesEach_regroupEach : ∀ body : List Statement,
    Statement.lexemesEach (Statement.regroupEach body) = Statement.lexemesEach body
  | [] => rfl
  | statement :: statements => by
      rw [Statement.regroupEach, Statement.lexemesEach, Statement.lexemes_regroup statement,
        Statement.lexemesEach_regroupEach statements]
      rfl

end

mutual

theorem Operand.nesting_attachTo : ∀ (chain tree : Operand) (operator : Operator),
    (chain.attachTo tree operator).nesting = tree.nesting ++ chain.nesting
  | .number literal, tree, operator => by
      rw [Operand.attachTo, Operand.nesting_attach]
  | .nested (.grouping body), tree, operator => by
      rw [Operand.attachTo, Operand.nesting_attach, Operand.nesting, Statement.nesting,
        Statement.nestingEach_regroupEach body]
      rfl
  | .nested (.expression next first rest), tree, operator => by
      rw [Operand.attachTo, Operand.nesting_attachTo rest, Operand.nesting,
        Operand.nesting_attach]
      simp only [Operand.nesting, Statement.nesting, List.append_assoc]

/-- Regrouping leaves every grouping in its place, with as many statements. -/
theorem Statement.nesting_regroup : ∀ statement : Statement,
    statement.regroup.nesting = statement.nesting
  | .expression operator left right => Operand.nesting_attachTo right left operator
  | .grouping body => by
      rw [Statement.regroup, Statement.nesting, Statement.nestingEach_regroupEach body]
      rfl

theorem Statement.nestingEach_regroupEach : ∀ body : List Statement,
    Statement.nestingEach (Statement.regroupEach body) = Statement.nestingEach body
  | [] => rfl
  | statement :: statements => by
      rw [Statement.regroupEach, Statement.nestingEach, Statement.nesting_regroup statement,
        Statement.nestingEach_regroupEach statements]
      rfl

end

/-! ### Under precedence -/

namespace Operand

variable {tree leaf : Operand}

/-- The operator at the root is the one that was added or the one that was there. -/
theorem operator?_attach (tree leaf : Operand) (operator : Operator) :
    (Operand.nested (tree.attach operator leaf)).operator? = some operator ∨
      (Operand.nested (tree.attach operator leaf)).operator? = tree.operator? := by
  fun_cases Operand.attach tree operator leaf with
  | case1 => exact .inl rfl
  | case2 => exact .inr rfl
  | case3 => exact .inl rfl

theorem single_attach (tree leaf : Operand) (operator : Operator) :
    (Operand.nested (tree.attach operator leaf)).Single := by
  fun_cases Operand.attach tree operator leaf <;> simp [Single, body?]

/-- An operator with a number or a grouping behind it can be added to every tree of the
precedence grammar. -/
theorem canonical_attach (operator : Operator) (htree : tree.Canonical .precedence)
    (hsingle : tree.Single) (hleaf : leaf.Canonical .precedence) (hleafSingle : leaf.Single)
    (hatom : leaf.operator? = none) : (tree.attach operator leaf).Canonical .precedence := by
  fun_induction Operand.attach tree operator leaf with
  | case1 outer left right operator leaf hweaker =>
      refine ⟨⟨?_, ?_, hsingle, hleafSingle⟩, htree, hleaf⟩
      · intro inner hinner
        obtain rfl : outer = inner := Option.some.inj hinner
        exact hweaker
      · simp [hatom]
  | case2 outer left right operator leaf htighter ih =>
      obtain ⟨⟨hassociates, hbinds, hleftSingle, hrightSingle⟩, hleft, hright⟩ := htree
      have hattached := ih hright hrightSingle hleaf hleafSingle hatom
      refine ⟨⟨hassociates, ?_, hleftSingle, single_attach right leaf operator⟩, hleft, hattached⟩
      intro inner hinner
      rcases right.operator?_attach leaf operator with hadded | hthere
      · obtain rfl : operator = inner := Option.some.inj (hadded.symm.trans hinner)
        exact Nat.lt_of_not_le htighter
      · exact hbinds inner (hthere ▸ hinner)
  | case3 tree operator leaf hatomTree =>
      have hnone : tree.operator? = none := by
        rw [Operand.operator?]
        exact hatomTree
      refine ⟨⟨?_, ?_, hsingle, hleafSingle⟩, htree, hleaf⟩
      · simp [hnone]
      · simp [hatom]

theorem canonical_attach_number (operator : Operator) {literal : String}
    (htree : tree.Canonical .precedence) (hsingle : tree.Single)
    (hdots : literal.toList.count '.' ≤ 1) :
    (tree.attach operator (.number literal)).Canonical .precedence := by
  apply canonical_attach operator htree hsingle
  · exact hdots
  · simp [Single, body?]
  · rfl

/-- Each operator that is added makes the tree deeper by one level at most. -/
theorem depth_attach_le (tree leaf : Operand) (operator : Operator) :
    (tree.attach operator leaf).depth ≤ tree.depth + leaf.depth + 1 := by
  fun_induction Operand.attach tree operator leaf with
  | case1 =>
      rw [Statement.depth]
      omega
  | case2 outer left right operator leaf _ ih =>
      simp only [Statement.depth, Operand.depth]
      omega
  | case3 =>
      rw [Statement.depth]
      omega

end Operand

theorem Statement.length_regroupEach (body : List Statement) :
    (Statement.regroupEach body).length = body.length := by
  induction body with
  | nil => rfl
  | cons statement statements ih =>
      rw [Statement.regroupEach, List.length_cons, ih, List.length_cons]

theorem Statement.regroupEach_ne_nil {body : List Statement} (hbody : body ≠ []) :
    Statement.regroupEach body ≠ [] := by
  rw [← List.length_pos_iff, Statement.length_regroupEach]
  exact List.length_pos_iff.2 hbody

mutual

theorem Operand.canonical_attachTo : ∀ {chain tree : Operand} (operator : Operator),
    chain.Canonical .rightRecursive → chain.Single →
    chain.Everywhere Operand.BothSingle →
    tree.Canonical .precedence → tree.Single →
    (chain.attachTo tree operator).Canonical .precedence
  | .number literal, tree, operator, hcanonical, _, _, htree, hsingle => by
      rw [Operand.attachTo]
      exact Operand.canonical_attach_number operator htree hsingle hcanonical
  | .nested (.grouping body), tree, operator, hcanonical, hone, hoperands, htree, hsingle => by
      obtain ⟨hnonempty, hbody⟩ := hcanonical
      rw [Operand.attachTo]
      apply Operand.canonical_attach operator htree hsingle
      · exact ⟨Statement.regroupEach_ne_nil hnonempty,
          Statement.allCanonical_regroupEach hbody hoperands⟩
      · intro other hother
        obtain rfl : Statement.regroupEach body = other := Option.some.inj hother
        rw [Statement.length_regroupEach]
        exact hone body rfl
      · rfl
  | .nested (.expression next first rest), tree, operator, hcanonical, _, hoperands, htree,
      hsingle => by
      obtain ⟨⟨literal, rfl⟩, hfirst, hrest⟩ := hcanonical
      obtain ⟨⟨_, hrestSingle⟩, -, hrestOperands⟩ := hoperands
      rw [Operand.attachTo]
      apply Operand.canonical_attachTo next hrest hrestSingle hrestOperands
      · exact Operand.canonical_attach_number operator htree hsingle hfirst
      · exact Operand.single_attach _ _ _

/-- A chain whose operands are single is regrouped into a tree of the precedence
grammar. -/
theorem Statement.canonical_regroup : ∀ {statement : Statement},
    statement.Canonical .rightRecursive →
    statement.Everywhere Operand.BothSingle →
    statement.regroup.Canonical .precedence
  | .expression operator left right, hcanonical, hoperands => by
      obtain ⟨⟨literal, rfl⟩, hleft, hright⟩ := hcanonical
      obtain ⟨⟨hleftSingle, hrightSingle⟩, -, hrightOperands⟩ := hoperands
      exact Operand.canonical_attachTo operator hright hrightSingle hrightOperands hleft hleftSingle
  | .grouping body, hcanonical, hoperands =>
      ⟨Statement.regroupEach_ne_nil hcanonical.1,
        Statement.allCanonical_regroupEach hcanonical.2 hoperands⟩

theorem Statement.allCanonical_regroupEach : ∀ {body : List Statement},
    Statement.AllCanonical .rightRecursive body →
    Statement.EverywhereEach Operand.BothSingle body →
    Statement.AllCanonical .precedence (Statement.regroupEach body)
  | [], _, _ => trivial
  | _ :: _, hcanonical, hoperands =>
      ⟨Statement.canonical_regroup hcanonical.1 hoperands.1,
        Statement.allCanonical_regroupEach hcanonical.2 hoperands.2⟩

end

mutual

theorem Operand.depth_attachTo_le : ∀ {chain : Operand} (tree : Operand) (operator : Operator),
    chain.Canonical .rightRecursive →
    (chain.attachTo tree operator).depth ≤ tree.depth + chain.depth + 1
  | .number literal, tree, operator, _ => by
      rw [Operand.attachTo]
      exact Operand.depth_attach_le tree _ operator
  | .nested (.grouping body), tree, operator, hcanonical => by
      have hbody := Statement.greatestDepth_regroupEach_le hcanonical.2
      have hattach := tree.depth_attach_le (.nested (.grouping (Statement.regroupEach body)))
        operator
      rw [Operand.attachTo]
      simp only [Operand.depth, Statement.depth] at hattach ⊢
      omega
  | .nested (.expression next first rest), tree, operator, hcanonical => by
      obtain ⟨⟨literal, rfl⟩, -, hrest⟩ := hcanonical
      have hattach := tree.depth_attach_le (.number literal) operator
      have hmore := Operand.depth_attachTo_le (.nested (tree.attach operator (.number literal)))
        next hrest
      rw [Operand.attachTo]
      simp only [Operand.depth, Statement.depth] at hattach hmore ⊢
      omega

/-- A chain is as deep as it has links, so regrouping it makes it no deeper. -/
theorem Statement.depth_regroup_le : ∀ {statement : Statement},
    statement.Canonical .rightRecursive → statement.regroup.depth ≤ statement.depth
  | .expression operator left right, hcanonical => by
      obtain ⟨⟨literal, rfl⟩, -, hright⟩ := hcanonical
      have hchain := Operand.depth_attachTo_le (.number literal) operator hright
      rw [Statement.regroup, Statement.depth]
      simp only [Operand.depth] at hchain ⊢
      omega
  | .grouping body, hcanonical => by
      have hbody := Statement.greatestDepth_regroupEach_le hcanonical.2
      rw [Statement.regroup, Statement.depth, Statement.depth]
      omega

theorem Statement.greatestDepth_regroupEach_le : ∀ {body : List Statement},
    Statement.AllCanonical .rightRecursive body →
    Statement.greatestDepth (Statement.regroupEach body) ≤ Statement.greatestDepth body
  | [], _ => Nat.le_refl 0
  | _ :: _, hcanonical => by
      have hfirst := Statement.depth_regroup_le hcanonical.1
      have hothers := Statement.greatestDepth_regroupEach_le hcanonical.2
      rw [Statement.regroupEach, Statement.greatestDepth, Statement.greatestDepth]
      omega

end

/-! ### Chains of one link -/

mutual

/-- Without a chain of two links there is nothing to regroup. -/
theorem Statement.regroup_eq_self : ∀ {statement : Statement},
    statement.Canonical .rightRecursive →
    statement.Everywhere Operand.OneLink →
    statement.regroup = statement
  | .expression operator left (.number literal), hcanonical, _ => by
      obtain ⟨⟨first, rfl⟩, -⟩ := hcanonical
      rfl
  | .expression operator left (.nested (.grouping body)), hcanonical, hunchained => by
      obtain ⟨⟨first, rfl⟩, -, -, hbody⟩ := hcanonical
      rw [Statement.regroup, Operand.attachTo, Statement.regroupEach_eq_self hbody hunchained.2.2]
      rfl
  | .expression _ _ (.nested (.expression _ _ _)), _, hunchained => by
      simp [Statement.Everywhere, Operand.OneLink, Operand.operator?] at hunchained
  | .grouping body, hcanonical, hunchained => by
      rw [Statement.regroup, Statement.regroupEach_eq_self hcanonical.2 hunchained]

theorem Statement.regroupEach_eq_self : ∀ {body : List Statement},
    Statement.AllCanonical .rightRecursive body →
    Statement.EverywhereEach Operand.OneLink body →
    Statement.regroupEach body = body
  | [], _, _ => rfl
  | _ :: _, hcanonical, hunchained => by
      rw [Statement.regroupEach, Statement.regroup_eq_self hcanonical.1 hunchained.1,
        Statement.regroupEach_eq_self hcanonical.2 hunchained.2]

end

/-- The precedence grammar accepts what the right-recursive one accepts, under the same
limit, as long as the groupings among the operands hold one statement each.  The program
and its groupings have as many statements as before, and the tree is no deeper; it is
the same tree if no expression has a bare expression for its right operand. -/
theorem precedence_program_of_rightRecursive (tokens : List Token) (source : Option String)
    (limit : Nat) (program : Program)
    (hread : ({ tokens, source, grammar := .rightRecursive, limit } : Reader).program =
      .ok program)
    (hsingle : program.SingleOperands) :
    ∃ regrouped : Program,
      ({ tokens, source, grammar := .precedence, limit } : Reader).program = .ok regrouped ∧
      regrouped.nesting = program.nesting ∧ regrouped.depth ≤ program.depth ∧
      (program.Unchained → regrouped = program ∧ regrouped.lower = program.lower) := by
  obtain ⟨hlexemes, hcanonical, hlimit⟩ := Reader.lexemes_of_program hread
  have hdepth : program.regroup.depth ≤ program.depth :=
    Statement.greatestDepth_regroupEach_le hcanonical
  refine ⟨program.regroup, ?_, Statement.nestingEach_regroupEach program.body, hdepth, ?_⟩
  · apply Reader.program_of_lexemes
    · exact (Statement.lexemesEach_regroupEach program.body).trans hlexemes
    · exact Statement.allCanonical_regroupEach hcanonical hsingle
    · exact Nat.le_trans hdepth hlimit
  · intro hunchained
    have hsame : program.regroup = program :=
      congrArg Program.mk (Statement.regroupEach_eq_self hcanonical hunchained)
    exact ⟨hsame, congrArg Program.lower hsame⟩

/-- The chain `2*3+(4-5)` is four levels deep as read to the right, and three under
precedence.  A limit of four is enough for both. -/
theorem precedence_program_of_product_before_sum :
    let reader (grammar : Grammar) : Reader :=
      { tokens := tokenize "2*3+(4-5)", source := none, grammar, limit := 4 }
    let difference : Operand :=
      .nested (.grouping [.expression .subtract (.number "4") (.number "5")])
    let program : Program :=
      ⟨[.expression .multiply (.number "2") (.nested (.expression .add (.number "3") difference))]⟩
    (reader .rightRecursive).program = .ok program ∧ program.depth = 4 ∧
      program.SingleOperands ∧
      ∃ regrouped : Program, (reader .precedence).program = .ok regrouped ∧
        regrouped.nesting = program.nesting ∧ regrouped.depth ≤ program.depth ∧
        (program.Unchained → regrouped = program ∧ regrouped.lower = program.lower) := by
  intro reader difference program
  have hread : (reader .rightRecursive).program = .ok program := by cbv
  have hsingle : program.SingleOperands := by
    simp [Program.SingleOperands, program, difference, Statement.EverywhereEach,
      Statement.Everywhere, Operand.Everywhere, Operand.BothSingle, Operand.Single, Operand.body?]
  refine ⟨hread, by decide, hsingle, ?_⟩
  exact precedence_program_of_rightRecursive _ none 4 program hread hsingle

end Calculator
