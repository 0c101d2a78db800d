import Calculator.Token.Lexer
import Mathlib.Data.List.TakeWhile

/-!
# Tokens of a text that goes on

Text is cut from left to right, so appending to it leaves the tokens that it has
as they are.  The one exception is a number at its very end, which may run on over
the digits and dots that are appended.  Both facts are proved along the text: a
blank is skipped, a digit takes the rest of its number with it, and every other
character stands alone.
-/

namespace Calculator

/-- The tokens of a text stand to those of the text continued as they are, but for
a number at the end, which may have grown. -/
inductive Continued : List Token → List Token → Prop where
  | nil (more : List Token) : Continued [] more
  | grown {last grown : Token} (more : List Token) (hlast : last.kind = .number)
      (hkind : grown.kind = .number) (hstart : grown.start = last.start)
      (hdots : last.dots ≤ grown.dots) : Continued [last] (grown :: more)
  | cons (token : Token) {tokens longer : List Token} (hrest : Continued tokens longer) :
      Continued (token :: tokens) (token :: longer)

/-- The token of a text that starts a distance further on. -/
def Token.shift (distance : Nat) (token : Token) : Token :=
  { token with start := token.start + distance }

/-- The last of the tokens is a number and ends at an offset. -/
def EndsInNumber (tokens : List Token) (finish : Nat) : Prop :=
  ∃ last ∈ tokens.getLast?, last.kind = .number ∧ last.finish = finish

theorem EndsInNumber.singleton {token : Token} {finish : Nat} (hkind : token.kind = .number)
    (hfinish : token.finish = finish) : EndsInNumber [token] finish :=
  ⟨token, rfl, hkind, hfinish⟩

theorem EndsInNumber.cons {tokens : List Token} {finish : Nat} (token : Token)
    (hends : EndsInNumber tokens finish) : EndsInNumber (token :: tokens) finish := by
  obtain ⟨last, hlast, hnumber⟩ := hends
  refine ⟨last, ?_, hnumber⟩
  rw [Option.mem_def, List.getLast?_cons, Option.mem_def.1 hlast]
  rfl

namespace Lexer

open CharClass (isWhitespace isDigit continuesNumber)

/-! ### What the first character decides -/

theorem isWhitespace_eq_false_of_isDigit {character : Char} (hdigit : isDigit character = true) :
    isWhitespace character = false := by
  by_contra hblank
  simp only [isWhitespace, Bool.not_eq_false, Bool.or_eq_true, beq_iff_eq] at hblank
  rcases hblank with ((rfl | rfl) | rfl) | rfl <;> simp [isDigit] at hdigit

theorem continuesNumber_eq_false_of_isWhitespace {character : Char}
    (hblank : isWhitespace character = true) : continuesNumber character = false := by
  simp only [isWhitespace, Bool.or_eq_true, beq_iff_eq] at hblank
  rcases hblank with ((rfl | rfl) | rfl) | rfl <;> decide

theorem tokens_of_next?_eq_none {lexer : Lexer} (hnext : lexer.next? = none) :
    lexer.tokens = [] := by
  rw [tokens]
  split
  · rfl
  · rename_i heq
    simp [hnext] at heq

theorem tokens_of_next?_eq_some {lexer after : Lexer} {token : Token}
    (hnext : lexer.next? = some (token, after)) : lexer.tokens = token :: after.tokens := by
  rw [tokens]
  split
  · rename_i heq
    simp [hnext] at heq
  · rename_i heq
    obtain ⟨rfl, rfl⟩ : _ ∧ _ := by simpa [hnext] using heq
    rfl

variable {character : Char} (characters : List Char) (offset : Nat)

@[simp]
theorem tokens_nil : (⟨[], offset⟩ : Lexer).tokens = [] :=
  tokens_of_next?_eq_none rfl

theorem tokens_cons_of_isWhitespace (hblank : isWhitespace character = true) :
    (⟨character :: characters, offset⟩ : Lexer).tokens =
      (⟨characters, offset + 1⟩ : Lexer).tokens := by
  have hnext : (⟨character :: characters, offset⟩ : Lexer).next? =
      (⟨characters, offset + 1⟩ : Lexer).next? := by
    simp only [next?, skipWhitespace, List.dropWhile_cons_of_pos hblank,
      List.takeWhile_cons_of_pos hblank, List.length_cons]
    rw [Nat.add_assoc, Nat.add_comm 1]
  cases hsame : (⟨characters, offset + 1⟩ : Lexer).next? with
  | none => rw [tokens_of_next?_eq_none hsame, tokens_of_next?_eq_none (hnext.trans hsame)]
  | some found => rw [tokens_of_next?_eq_some hsame, tokens_of_next?_eq_some (hnext.trans hsame)]

theorem next?_cons_of_isWhitespace_eq_false (hblank : isWhitespace character = false) :
    (⟨character :: characters, offset⟩ : Lexer).next? =
      (⟨character :: characters, offset⟩ : Lexer).scan := by
  have hstop : ¬ isWhitespace character = true := by simp [hblank]
  rw [next?, skipWhitespace, List.dropWhile_cons_of_neg hstop, List.takeWhile_cons_of_neg hstop]
  rfl

theorem tokens_cons_of_isDigit (hdigit : isDigit character = true) :
    (⟨character :: characters, offset⟩ : Lexer).tokens =
      ⟨.number, String.ofList (character :: characters.takeWhile continuesNumber), offset⟩ ::
        (⟨characters.dropWhile continuesNumber,
          offset + 1 + (characters.takeWhile continuesNumber).length⟩ : Lexer).tokens := by
  apply tokens_of_next?_eq_some
  rw [next?_cons_of_isWhitespace_eq_false _ _ (isWhitespace_eq_false_of_isDigit hdigit)]
  simp [scan, hdigit]

theorem tokens_cons_of_single (hblank : isWhitespace character = false)
    (hdigit : isDigit character = false) :
    (⟨character :: characters, offset⟩ : Lexer).tokens =
      ⟨singleKind character, String.singleton character, offset⟩ ::
        (⟨characters, offset + 1⟩ : Lexer).tokens := by
  apply tokens_of_next?_eq_some
  rw [next?_cons_of_isWhitespace_eq_false _ _ hblank]
  simp [scan, hdigit]

theorem finish_number :
    (⟨.number, String.ofList (character :: characters), offset⟩ : Token).finish =
      offset + 1 + characters.length := by
  rw [Token.finish, Token.length, String.length_ofList, List.length_cons, Nat.add_assoc,
    Nat.add_comm 1]

/-- Induction along a text as it is cut: over blanks, whole numbers and characters
that stand alone. -/
@[elab_as_elim]
theorem cutInduction {motive : List Char → Prop} (nil : motive [])
    (blank : ∀ character characters, isWhitespace character = true → motive characters →
      motive (character :: characters))
    (number : ∀ character characters, isDigit character = true →
      motive (characters.dropWhile continuesNumber) → motive (character :: characters))
    (single : ∀ character characters, isWhitespace character = false →
      isDigit character = false → motive characters → motive (character :: characters))
    (characters : List Char) : motive characters := by
  induction hlength : characters.length using Nat.strongRecOn generalizing characters with
  | ind length ih =>
      cases characters with
      | nil => exact nil
      | cons character rest =>
          have hrest : rest.length < length := by
            rw [← hlength]
            exact Nat.lt_succ_self _
          have hdropped := length_dropWhile_le continuesNumber rest
          cases hdigit : isDigit character with
          | true => exact number character rest hdigit (ih _ (by omega) _ rfl)
          | false =>
              cases hblank : isWhitespace character with
              | true => exact blank character rest hblank (ih _ hrest _ rfl)
              | false => exact single character rest hblank hdigit (ih _ hrest _ rfl)

/-! ### Appending -/

/-- A number goes on over appended text only if it reaches to the end of its own
and the appended text continues it. -/
theorem takeWhile_append_of_stops {more : List Char}
    (hstops : characters.dropWhile continuesNumber = [] →
      ∀ character ∈ more.head?, continuesNumber character = false) :
    (characters ++ more).takeWhile continuesNumber = characters.takeWhile continuesNumber ∧
      (characters ++ more).dropWhile continuesNumber =
        characters.dropWhile continuesNumber ++ more := by
  induction characters with
  | nil =>
      cases more with
      | nil => exact ⟨rfl, rfl⟩
      | cons next others =>
          have hnext : ¬ continuesNumber next = true := by simpa using hstops rfl
          exact ⟨List.takeWhile_cons_of_neg hnext, List.dropWhile_cons_of_neg hnext⟩
  | cons character rest ih =>
      by_cases hcontinues : continuesNumber character = true
      · rw [List.dropWhile_cons_of_pos hcontinues] at hstops
        obtain ⟨htaken, hdropped⟩ := ih hstops
        rw [List.cons_append, List.takeWhile_cons_of_pos hcontinues,
          List.takeWhile_cons_of_pos hcontinues, List.dropWhile_cons_of_pos hcontinues,
          List.dropWhile_cons_of_pos hcontinues, htaken]
        exact ⟨rfl, hdropped⟩
      · rw [List.cons_append, List.takeWhile_cons_of_neg hcontinues,
          List.takeWhile_cons_of_neg hcontinues, List.dropWhile_cons_of_neg hcontinues,
          List.dropWhile_cons_of_neg hcontinues]
        exact ⟨rfl, rfl⟩

/-- Where a text starts shows in the offsets of its tokens only, and there as a shift. -/
theorem tokens_shift (distance : Nat) :
    (⟨characters, offset + distance⟩ : Lexer).tokens =
      (⟨characters, offset⟩ : Lexer).tokens.map (Token.shift distance) := by
  induction characters using cutInduction generalizing offset with
  | nil => simp
  | blank character rest hblank ih =>
      rw [tokens_cons_of_isWhitespace _ _ hblank, tokens_cons_of_isWhitespace _ _ hblank, ← ih,
        Nat.add_right_comm]
  | number character rest hdigit ih =>
      have hoffset : offset + distance + 1 + (rest.takeWhile continuesNumber).length =
          offset + 1 + (rest.takeWhile continuesNumber).length + distance := by
        omega
      rw [tokens_cons_of_isDigit _ _ hdigit, tokens_cons_of_isDigit _ _ hdigit, List.map_cons,
        ← ih, hoffset]
      rfl
  | single character rest hblank hdigit ih =>
      rw [tokens_cons_of_single _ _ hblank hdigit, tokens_cons_of_single _ _ hblank hdigit,
        List.map_cons, ← ih, Nat.add_right_comm]
      rfl

/-- A text whose last number reaches to its end keeps its tokens if what is appended
does not continue a number, and every other text keeps them whatever is appended. -/
theorem tokens_append_of_endsInNumber {more : List Char}
    (hmore : EndsInNumber (⟨characters, offset⟩ : Lexer).tokens (offset + characters.length) →
      ∀ character ∈ more.head?, continuesNumber character = false) :
    (⟨characters ++ more, offset⟩ : Lexer).tokens =
      (⟨characters, offset⟩ : Lexer).tokens ++
        (⟨more, offset + characters.length⟩ : Lexer).tokens := by
  induction characters using cutInduction generalizing offset with
  | nil => simp
  | blank character rest hblank ih =>
      have hoffset : offset + (character :: rest).length = offset + 1 + rest.length := by
        rw [List.length_cons, Nat.add_assoc, Nat.add_comm 1]
      rw [tokens_cons_of_isWhitespace _ _ hblank, hoffset] at hmore
      rw [List.cons_append, tokens_cons_of_isWhitespace _ _ hblank,
        tokens_cons_of_isWhitespace _ _ hblank, ih _ hmore, hoffset]
  | number character rest hdigit ih =>
      have hsplit : rest.takeWhile continuesNumber ++ rest.dropWhile continuesNumber = rest :=
        List.takeWhile_append_dropWhile
      have hlength := congrArg List.length hsplit
      rw [List.length_append] at hlength
      have hoffset : offset + (character :: rest).length =
          offset + 1 + (rest.takeWhile continuesNumber).length +
            (rest.dropWhile continuesNumber).length := by
        rw [List.length_cons]
        omega
      rw [tokens_cons_of_isDigit _ _ hdigit, hoffset] at hmore
      have hstops : rest.dropWhile continuesNumber = [] →
          ∀ next ∈ more.head?, continuesNumber next = false := by
        intro hend
        -- The number reaches to the end of the text and is its last token.
        apply hmore
        rw [hend, tokens_nil]
        exact EndsInNumber.singleton rfl (finish_number _ _)
      obtain ⟨htaken, hdropped⟩ := takeWhile_append_of_stops rest hstops
      rw [List.cons_append, tokens_cons_of_isDigit _ _ hdigit, tokens_cons_of_isDigit _ _ hdigit,
        htaken, hdropped, ih _ fun hends => hmore (hends.cons _), hoffset, List.cons_append]
  | single character rest hblank hdigit ih =>
      have hoffset : offset + (character :: rest).length = offset + 1 + rest.length := by
        rw [List.length_cons, Nat.add_assoc, Nat.add_comm 1]
      rw [tokens_cons_of_single _ _ hblank hdigit, hoffset] at hmore
      rw [List.cons_append, tokens_cons_of_single _ _ hblank hdigit,
        tokens_cons_of_single _ _ hblank hdigit, ih _ fun hends => hmore (hends.cons _), hoffset,
        List.cons_append]

/-- Where no number can run on, the tokens of a text are those of its two parts. -/
theorem tokens_append {more : List Char}
    (hmore : ∀ character ∈ more.head?, continuesNumber character = false) :
    (⟨characters ++ more, offset⟩ : Lexer).tokens =
      (⟨characters, offset⟩ : Lexer).tokens ++
        (⟨more, offset + characters.length⟩ : Lexer).tokens :=
  tokens_append_of_endsInNumber characters offset fun _ => hmore

/-- Whatever is appended, the tokens of the text go on. -/
theorem continued_tokens_append (more : List Char) :
    Continued (⟨characters, offset⟩ : Lexer).tokens
      (⟨characters ++ more, offset⟩ : Lexer).tokens := by
  induction characters using cutInduction generalizing offset with
  | nil =>
      rw [tokens_nil]
      exact Continued.nil _
  | blank character rest hblank ih =>
      rw [List.cons_append, tokens_cons_of_isWhitespace _ _ hblank,
        tokens_cons_of_isWhitespace _ _ hblank]
      exact ih _
  | number character rest hdigit ih =>
      rw [List.cons_append, tokens_cons_of_isDigit _ _ hdigit, tokens_cons_of_isDigit _ _ hdigit]
      by_cases hend : rest.dropWhile continuesNumber = []
      · -- The number reaches to the end of the text and takes in what continues it.
        have hall := List.dropWhile_eq_nil_iff.1 hend
        rw [hend, tokens_nil, List.takeWhile_append_of_pos hall]
        apply Continued.grown
        · rfl
        · rfl
        · rfl
        · rw [List.takeWhile_eq_self_iff.2 hall]
          simp only [Token.dots, String.toList_ofList]
          rw [← List.cons_append, List.count_append]
          exact Nat.le_add_right _ _
      · obtain ⟨htaken, hdropped⟩ := takeWhile_append_of_stops rest fun hnil => absurd hnil hend
        rw [htaken, hdropped]
        exact Continued.cons _ (ih _)
  | single character rest hblank hdigit ih =>
      rw [List.cons_append, tokens_cons_of_single _ _ hblank hdigit,
        tokens_cons_of_single _ _ hblank hdigit]
      exact Continued.cons _ (ih _)

end Lexer

/-- The tokens of a source go on in those of the source with text appended. -/
theorem continued_tokenize_append (source more : String) :
    Continued (tokenize source) (tokenize (source ++ more)) := by
  rw [tokenize, tokenize, Lexer.ofSource, Lexer.ofSource, String.toList_append]
  exact Lexer.continued_tokens_append _ _ _

end Calculator
