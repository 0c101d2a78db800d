import Calculator.Number.Literal
import Calculator.Token.Lexer
import Mathlib.Data.List.TakeWhile

/-!
# Number tokens are numbers

Tokenizing makes a number token of a digit and all digits and dots behind it.
Such a text is accepted by the reader of numbers as long as it has no second dot,
so a literal that has passed the reader of programs never fails on the machine.
-/

namespace Calculator

/-- A digit followed by digits and dots. -/
def Numeral (characters : List Char) : Prop :=
  ∃ first more, characters = first :: more ∧ CharClass.isDigit first = true ∧
    ∀ character ∈ more, CharClass.continuesNumber character = true

namespace Lexer

theorem singleKind_ne_number (character : Char) : singleKind character ≠ .number := by
  unfold singleKind
  split
  · simp
  · split <;> simp

/-- A number token is scanned where a digit stands, and runs on over digits and
dots. -/
theorem numeral_of_scan {lexer after : Lexer} {token : Token}
    (hscan : lexer.scan = some (token, after)) (hkind : token.kind = .number) :
    Numeral token.text.toList := by
  unfold scan at hscan
  split at hscan
  · simp at hscan
  · rename_i character tail hrest
    split at hscan
    · rename_i hdigit
      obtain ⟨rfl, -⟩ := Prod.mk.inj (Option.some.inj hscan)
      refine ⟨character, _, String.toList_ofList, hdigit, ?_⟩
      intro other hmem
      exact List.mem_takeWhile_imp hmem
    · obtain ⟨rfl, -⟩ := Prod.mk.inj (Option.some.inj hscan)
      exact absurd hkind (singleKind_ne_number character)

theorem numeral_of_mem_tokens {lexer : Lexer} {token : Token} (hmem : token ∈ lexer.tokens)
    (hkind : token.kind = .number) : Numeral token.text.toList := by
  induction hlength : lexer.rest.length using Nat.strongRecOn generalizing lexer with
  | ind length ih =>
      rw [tokens] at hmem
      split at hmem
      · simp at hmem
      · rename_i first after hnext
        rcases List.mem_cons.1 hmem with rfl | hmem
        · exact numeral_of_scan hnext hkind
        · exact ih _ (hlength ▸ next?_rest_length_lt hnext) hmem rfl

end Lexer

namespace Number

open CharClass (isDigit continuesNumber)

theorem cutSign_of_isDigit {first : Char} (more : List Char) (hdigit : isDigit first = true) :
    cutSign (first :: more) = (false, first :: more) := by
  unfold cutSign
  split
  · rename_i heq
    obtain ⟨rfl, rfl⟩ := List.cons.inj heq
    simp [isDigit] at hdigit
  · rename_i heq
    obtain ⟨rfl, rfl⟩ := List.cons.inj heq
    simp [isDigit] at hdigit
  · rfl

/-- A character that continues a number and is no digit is a dot. -/
theorem eq_dot_of_continuesNumber {character : Char}
    (hcontinues : continuesNumber character = true) (hdigit : isDigit character = false) :
    character = '.' := by
  simpa [continuesNumber, hdigit, CharClass.isDot] using hcontinues

/-- Behind the leading digits stands nothing, or a dot and digits if there is no
second dot. -/
theorem cutFraction_of_continuesNumber {characters : List Char}
    (hcontinues : ∀ character ∈ characters, continuesNumber character = true)
    (hdots : characters.count '.' ≤ 1) :
    (cutFraction (characters.dropWhile isDigit)).2 = [] := by
  induction characters with
  | nil => rfl
  | cons first more ih =>
      have hmore : ∀ character ∈ more, continuesNumber character = true :=
        fun character hmem => hcontinues character (List.mem_cons_of_mem _ hmem)
      rw [List.count_cons] at hdots
      cases hdigit : isDigit first with
      | true =>
          rw [List.dropWhile_cons_of_pos hdigit]
          exact ih hmore (by omega)
      | false =>
          obtain rfl := eq_dot_of_continuesNumber (hcontinues first List.mem_cons_self) hdigit
          have hnone : '.' ∉ more := by
            rw [← List.count_eq_zero]
            simpa using hdots
          rw [List.dropWhile_cons_of_neg (by simp [hdigit]), cutFraction]
          apply List.dropWhile_eq_nil_iff.2
          intro character hmem
          by_contra hother
          have hdot := eq_dot_of_continuesNumber (hmore character hmem) (by simpa using hother)
          exact hnone (hdot ▸ hmem)

/-- A numeral without a second dot is a number. -/
theorem isSome_read?_of_numeral {literal : String} (hnumeral : Numeral literal.toList)
    (hdots : literal.toList.count '.' ≤ 1) : (read? literal).isSome = true := by
  obtain ⟨first, more, hliteral, hdigit, hmore⟩ := hnumeral
  rw [hliteral] at hdots
  have hcontinues : ∀ character ∈ first :: more, continuesNumber character = true := by
    refine List.forall_mem_cons.2 ⟨?_, hmore⟩
    simp [continuesNumber, hdigit]
  have hfraction := cutFraction_of_continuesNumber hcontinues hdots
  have hdecimal : (decimal? (first :: more)).isSome = true := by
    rw [decimal?, List.takeWhile_cons_of_pos hdigit]
    simp [hfraction, exponent?]
  rw [read?, hliteral, cutSign_of_isDigit more hdigit]
  simp only [Option.isSome_map, unsigned?]
  split
  · rfl
  · split
    · rfl
    · rw [Option.isSome_map]
      exact hdecimal

end Number

/-- Every number token of a source with at most one dot spells a number. -/
theorem isSome_read?_of_mem_tokenize {source : String} {token : Token}
    (hmem : token ∈ tokenize source) (hkind : token.kind = .number) (hdots : token.dots ≤ 1) :
    (Number.read? token.text).isSome = true :=
  Number.isSome_read?_of_numeral (Lexer.numeral_of_mem_tokens hmem hkind) hdots

end Calculator
