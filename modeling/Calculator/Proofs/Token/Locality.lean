import Calculator.Proofs.Token.Segmentation

/-!
# Where two texts can be joined

Text may be cut into tokens piece by piece, since what a token is does not depend on
the text before it and hardly on the text behind it.  A number is the exception: it
could not be longer, and so a number that reaches to the end of one piece is no token
of the whole if the next piece continues it.  Everywhere else the tokens of the whole
are the tokens of the pieces, those of the second one shifted by the length of the
first.
-/

namespace Calculator

open CharClass (isDigit continuesNumber)

theorem CharClass.continuesNumber_eq_true_iff {character : Char} :
    continuesNumber character = true ↔ isDigit character = true ∨ character = '.' := by
  simp [continuesNumber, isDot]

/-- A token that is cut from two texts joined is followed by the second text, if it
ends with the first one. -/
theorem Token.CutFrom.not_continued {first second : List Char} {token : Token} {next : Char}
    (hcut : token.CutFrom (first ++ second)) (hkind : token.kind = .number)
    (hfinish : token.finish = first.length) (hnext : second.head? = some next) :
    continuesNumber next = false := by
  have hbehind : (first ++ second)[token.finish]? = some next := by
    rw [hfinish, ← List.head?_drop, List.drop_left, hnext]
  apply CharClass.continuesNumber_eq_false_iff.2
  exact (hcut.number hkind).2 next hbehind

/-- Tokens do not depend on where their text is cut in two, unless a number ends where
the first part does and the second part continues it. -/
theorem tokenize_append_iff (first second : String) :
    tokenize (first ++ second) =
        tokenize first ++ (tokenize second).map (Token.shift first.length) ↔
      ¬ (EndsInNumber (tokenize first) first.length ∧
        ∃ next ∈ second.toList.head?, isDigit next = true ∨ next = '.') := by
  constructor
  · rintro hlocal ⟨⟨last, hlast, hkind, hfinish⟩, next, hnext, hcontinues⟩
    -- The last token of the first text would be one of the whole, and could be longer.
    have hmem : last ∈ tokenize (first ++ second) := by
      rw [hlocal]
      exact List.mem_append_left _ (List.mem_of_getLast? hlast)
    have hcut := (segmentation_tokenize (first ++ second)).cut last hmem
    rw [String.toList_append] at hcut
    rw [← String.length_toList] at hfinish
    have hstops := hcut.not_continued hkind hfinish hnext
    rw [CharClass.continuesNumber_eq_true_iff.2 hcontinues] at hstops
    exact Bool.false_ne_true hstops.symm
  · intro hseparate
    have hstops : EndsInNumber (⟨first.toList, 0⟩ : Lexer).tokens (0 + first.toList.length) →
        ∀ next ∈ second.toList.head?, continuesNumber next = false := by
      intro hends next hnext
      rw [Nat.zero_add, String.length_toList] at hends
      apply Bool.eq_false_iff.2
      intro hcontinues
      exact hseparate ⟨hends, next, hnext, CharClass.continuesNumber_eq_true_iff.1 hcontinues⟩
    calc tokenize (first ++ second)
        = (⟨first.toList ++ second.toList, 0⟩ : Lexer).tokens := by
          rw [tokenize, Lexer.ofSource, String.toList_append]
      _ = tokenize first ++ (⟨second.toList, 0 + first.toList.length⟩ : Lexer).tokens :=
          Lexer.tokens_append_of_endsInNumber _ _ hstops
      _ = tokenize first ++ (tokenize second).map (Token.shift first.length) := by
          rw [Lexer.tokens_shift, String.length_toList]
          rfl

/-- A dot behind a number is taken in, a dot behind a blank is not. -/
example : tokenize ("1" ++ ".5") = [⟨.number, "1.5", 0⟩] ∧
    tokenize ("1 " ++ ".5") = [⟨.number, "1", 0⟩, ⟨.unknown, ".", 2⟩, ⟨.number, "5", 3⟩] := by
  cbv

end Calculator
