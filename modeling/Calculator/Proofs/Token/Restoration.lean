import Calculator.Proofs.Token.Segmentation
import Mathlib.Data.List.Chain

/-!
# Restoring a text from its tokens

Tokens that stand in a text where they say, one behind the other, can be laid over
the text without changing it.  The cursor then never runs back: up to the start of the
next token the text is copied, over the token it is written from the token, which holds
the same, and so what is put out from a place on is the text from that place on.  The
tokens cut from a text are such tokens.  What they leave out is blank and what they
hold is not, so that their texts alone are the text without its blanks.
-/

namespace Calculator

open CharClass (isWhitespace isDigit continuesNumber)

/-- The tokens lie inside the source, hold what it holds there, and each one starts
no earlier than the one before it ends. -/
structure Placed (source : List Char) (tokens : List Token) : Prop where
  inside : ∀ token ∈ tokens, token.finish ≤ source.length
  text : ∀ token ∈ tokens, stretch source token.start token.finish = token.text.toList
  ordered : tokens.IsChain fun first second => first.finish ≤ second.start

theorem Placed.tail {source : List Char} {token : Token} {tokens : List Token}
    (hplaced : Placed source (token :: tokens)) : Placed source tokens :=
  ⟨fun other hmem => hplaced.inside other (List.mem_cons_of_mem _ hmem),
    fun other hmem => hplaced.text other (List.mem_cons_of_mem _ hmem),
    (List.isChain_cons.1 hplaced.ordered).2⟩

theorem Segmentation.placed {source : List Char} {place : Nat} {tokens : List Token}
    (hsegments : Segmentation source place tokens) : Placed source tokens :=
  ⟨fun token hmem => (hsegments.cut token hmem).inside,
    fun token hmem => (hsegments.cut token hmem).text, hsegments.ordered.isChain⟩

/-! ### Stretches of a source -/

theorem length_stretch {source : List Char} (first : Nat) {last : Nat}
    (hinside : last ≤ source.length) : (stretch source first last).length = last - first := by
  rw [stretch, List.length_take, List.length_drop]
  omega

theorem stretch_append_stretch (source : List Char) {first middle last : Nat}
    (hfirst : first ≤ middle) (hlast : middle ≤ last) :
    stretch source first middle ++ stretch source middle last = stretch source first last := by
  have hdrop : source.drop middle = (source.drop first).drop (middle - first) := by
    rw [List.drop_drop, Nat.add_sub_cancel' hfirst]
  have hlength : last - first = middle - first + (last - middle) := by omega
  rw [stretch, stretch, stretch, hdrop, hlength, List.take_add]

/-- A stretch and what follows it. -/
theorem stretch_append_drop (source : List Char) {first last : Nat} (hordered : first ≤ last) :
    stretch source first last ++ source.drop last = source.drop first := by
  have hdrop : source.drop last = (source.drop first).drop (last - first) := by
    rw [List.drop_drop, Nat.add_sub_cancel' hordered]
  rw [stretch, hdrop, List.take_append_drop]

/-! ### Laying tokens over their source -/

/-- From a cursor that no token starts before, what is put out is the source. -/
theorem layTokens_of_placed {source : List Char} {cursor : Nat} {tokens : List Token}
    (hplaced : Placed source tokens) (hcursor : ∀ token ∈ tokens.head?, cursor ≤ token.start) :
    layTokens source cursor tokens = source.drop cursor := by
  induction tokens generalizing cursor with
  | nil => rfl
  | cons token tokens ih =>
      have hgap : cursor ≤ token.start := hcursor token rfl
      have hspan : token.start ≤ token.finish := Nat.le_add_right _ _
      have hnext : ∀ other ∈ tokens.head?, token.finish ≤ other.start :=
        (List.isChain_cons.1 hplaced.ordered).1
      calc layTokens source cursor (token :: tokens)
          = stretch source cursor token.start ++ token.text.toList ++
              layTokens source token.finish tokens := rfl
        _ = stretch source cursor token.start ++
              (stretch source token.start token.finish ++ source.drop token.finish) := by
            rw [ih hplaced.tail hnext, hplaced.text token List.mem_cons_self, List.append_assoc]
        _ = stretch source cursor token.start ++ source.drop token.start := by
            rw [stretch_append_drop source hspan]
        _ = source.drop cursor := stretch_append_drop source hgap

theorem reconstruct_of_placed {source : String} {tokens : List Token}
    (hplaced : Placed source.toList tokens) : reconstruct tokens source = source := by
  have hstart : ∀ token ∈ tokens.head?, 0 ≤ token.start := fun _ _ => Nat.zero_le _
  rw [reconstruct, layTokens_of_placed hplaced hstart, List.drop_zero, String.ofList_toList]

/-! ### Token texts alone -/

theorem CharClass.isWhitespace_eq_false_of_continuesNumber {character : Char}
    (hcontinues : continuesNumber character = true) : isWhitespace character = false := by
  apply Bool.eq_false_iff.2
  intro hblank
  rw [Lexer.continuesNumber_eq_false_of_isWhitespace hblank] at hcontinues
  exact Bool.false_ne_true hcontinues

/-- The texts of the tokens are the text less its blanks. -/
theorem Lexer.flatMap_text_tokens (characters : List Char) (offset : Nat) :
    ((⟨characters, offset⟩ : Lexer).tokens.flatMap fun token => token.text.toList) =
      characters.filter fun character => !isWhitespace character := by
  induction characters using cutInduction generalizing offset with
  | nil => rw [tokens_nil, List.flatMap_nil, List.filter_nil]
  | blank character rest hblank ih =>
      rw [tokens_cons_of_isWhitespace _ _ hblank, ih, List.filter_cons_of_neg (by simp [hblank])]
  | number character rest hdigit ih =>
      have hmore : (rest.takeWhile continuesNumber).filter (fun other => !isWhitespace other) =
          rest.takeWhile continuesNumber := by
        apply List.filter_eq_self.2
        intro other hmem
        simp [CharClass.isWhitespace_eq_false_of_continuesNumber (List.mem_takeWhile_imp hmem)]
      have hrest : rest.filter (fun other => !isWhitespace other) =
          rest.takeWhile continuesNumber ++
            (rest.dropWhile continuesNumber).filter fun other => !isWhitespace other := by
        rw [← hmore, ← List.filter_append, List.takeWhile_append_dropWhile]
      rw [tokens_cons_of_isDigit _ _ hdigit, List.flatMap_cons, ih, String.toList_ofList,
        List.filter_cons_of_pos (by simp [isWhitespace_eq_false_of_isDigit hdigit]), hrest]
      rfl
  | single character rest hblank hdigit ih =>
      rw [tokens_cons_of_single _ _ hblank hdigit, List.flatMap_cons, ih,
        String.toList_singleton, List.filter_cons_of_pos (by simp [hblank])]
      rfl

/-- Laid over its source, a list of tokens that stand in it one behind the other gives
the source again, as the tokens cut from the source do.  Their texts alone give the
source without its spaces, tabs and line breaks. -/
theorem reconstruct_eq_source (source : String) :
    (∀ tokens, Placed source.toList tokens → reconstruct tokens source = source) ∧
      reconstruct (tokenize source) source = source ∧
      (String.join ((tokenize source).map Token.text)).toList =
        source.toList.filter fun character => character ∉ [' ', '\t', '\n', '\r'] := by
  refine ⟨fun _ => reconstruct_of_placed, ?_, ?_⟩
  · exact reconstruct_of_placed (segmentation_tokenize source).placed
  · have hblank : (fun character => decide (character ∉ [' ', '\t', '\n', '\r'])) =
        fun character => !isWhitespace character := by
      funext character
      simp only [← CharClass.isWhitespace_iff_mem, decide_not, Bool.decide_eq_true]
    rw [String.toList_join, List.flatMap_map, hblank]
    exact Lexer.flatMap_text_tokens _ _

/-- Two tokens without text, one at the start and one inside the gap, and one token that
joins what would be cut apart change nothing. -/
theorem reconstruct_of_joined_tokens :
    let source := " 1+ é "
    let tokens : List Token := [⟨.unknown, "", 0⟩, ⟨.number, "1+", 1⟩, ⟨.operator, "", 3⟩,
      ⟨.unknown, "é", 4⟩]
    Placed source.toList tokens ∧ reconstruct tokens source = source := by
  intro source tokens
  have hplaced : Placed source.toList tokens := ⟨by decide, by decide, by decide⟩
  exact ⟨hplaced, (reconstruct_eq_source source).1 tokens hplaced⟩

end Calculator
