import Calculator.Proofs.Number.Literal
import Calculator.Proofs.Token.Append
import Calculator.Token.Reconstruct

/-!
# The segmentation of a text

Which tokens a text is cut into can be said without saying how it is cut.  Each token
stands in the text where it claims to, and is either a number that could not be
longer or a single character; the tokens follow one another, and what they leave out
is blank.  No two segmentations of a text differ, since two tokens that start at the
same place are the same and neither segmentation can skip the start of a token of the
other.  The tokens that are cut from the left are therefore the only ones.
-/

namespace Calculator

open CharClass (isWhitespace isDigit continuesNumber)

/-! ### Tokens in their source -/

namespace Token

def Covers (token : Token) (place : Nat) : Prop :=
  token.start ≤ place ∧ place < token.finish

/-- The token stands in the source as it says, has no blank in it and cannot be
longer.  A single character that is neither an operator nor a parenthesis is left
with the kind `unknown`, a dot that continues no number among them. -/
structure CutFrom (source : List Char) (token : Token) : Prop where
  nonempty : token.start < token.finish
  inside : token.finish ≤ source.length
  text : stretch source token.start token.finish = token.text.toList
  solid : ∀ character ∈ token.text.toList, character ∉ [' ', '\t', '\n', '\r']
  number : token.kind = .number → Numeral token.text.toList ∧
    ∀ next ∈ source[token.finish]?, isDigit next = false ∧ next ≠ '.'
  single : token.kind ≠ .number → ∃ character, token.text.toList = [character] ∧
    isDigit character = false ∧
    (token.kind = .operator ↔ character ∈ ['+', '-', '*', '/']) ∧
    (token.kind = .parenthesis ↔ character ∈ ['(', ')'])

end Token

/-- The tokens cut the source from a place on: they come in order, do not overlap and
leave out nothing but blanks. -/
structure Segmentation (source : List Char) (place : Nat) (tokens : List Token) : Prop where
  cut : ∀ token ∈ tokens, token.CutFrom source
  start : ∀ token ∈ tokens, place ≤ token.start
  ordered : tokens.Pairwise fun first second => first.finish ≤ second.start
  gaps : ∀ index character, place ≤ index → source[index]? = some character →
    (∀ token ∈ tokens, ¬ token.Covers index) → character ∈ [' ', '\t', '\n', '\r']

theorem CharClass.isWhitespace_iff_mem {character : Char} :
    isWhitespace character = true ↔ character ∈ [' ', '\t', '\n', '\r'] := by
  simp [isWhitespace, or_assoc]

theorem CharClass.continuesNumber_eq_false_iff {character : Char} :
    continuesNumber character = false ↔ isDigit character = false ∧ character ≠ '.' := by
  simp [continuesNumber, isDot]

theorem Numeral.continuesNumber_of_getElem? {characters : List Char}
    (hnumeral : Numeral characters) {index : Nat} (hindex : 0 < index) {character : Char}
    (hcharacter : characters[index]? = some character) : continuesNumber character = true := by
  obtain ⟨first, more, rfl, -, hmore⟩ := hnumeral
  obtain ⟨index, rfl⟩ := Nat.exists_eq_add_one.2 hindex
  exact hmore character (List.mem_of_getElem? hcharacter)

/-! ### One token to a place -/

namespace Token.CutFrom

variable {source : List Char} {token first second : Token}

theorem length_pos (hcut : token.CutFrom source) : 0 < token.length := by
  have hnonempty := hcut.nonempty
  rw [Token.finish] at hnonempty
  omega

theorem getElem?_source (hcut : token.CutFrom source) {index : Nat}
    (hindex : index < token.length) :
    source[token.start + index]? = token.text.toList[index]? := by
  have hspan : index < token.finish - token.start := by
    rw [Token.finish]
    omega
  rw [← hcut.text, stretch, List.getElem?_take_of_lt hspan, List.getElem?_drop]

theorem exists_getElem?_eq_some (hcut : token.CutFrom source) {index : Nat}
    (hindex : index < token.length) :
    ∃ character, source[token.start + index]? = some character ∧
      token.text.toList[index]? = some character := by
  have hlength : index < token.text.toList.length := by
    rw [String.length_toList]
    exact hindex
  have hcharacter := List.getElem?_eq_getElem hlength
  exact ⟨_, (hcut.getElem?_source hindex).trans hcharacter, hcharacter⟩

/-- A number is never the shorter one of two that start at the same place: the
character behind it would lie within the longer one and continue it. -/
theorem finish_le_of_number (hfirst : first.CutFrom source) (hsecond : second.CutFrom source)
    (hstart : first.start = second.start) (hkind : first.kind = .number)
    (hother : second.kind = .number) : second.finish ≤ first.finish := by
  apply Nat.le_of_not_lt
  intro hlonger
  rw [Token.finish, Token.finish] at hlonger
  obtain ⟨next, hnext, htext⟩ :=
    hsecond.exists_getElem?_eq_some (show first.length < second.length by omega)
  rw [← hstart] at hnext
  have hstops := (hfirst.number hkind).2 next hnext
  have hcontinues :=
    (hsecond.number hother).1.continuesNumber_of_getElem? hfirst.length_pos htext
  rw [CharClass.continuesNumber_eq_false_iff.2 hstops] at hcontinues
  exact Bool.false_ne_true hcontinues

/-- The character at the start of a token tells whether it is a number. -/
theorem isDigit_start_iff (hcut : token.CutFrom source) {character : Char}
    (hcharacter : source[token.start]? = some character) :
    isDigit character = true ↔ token.kind = .number := by
  have hfirst : token.text.toList[0]? = some character :=
    (hcut.getElem?_source hcut.length_pos).symm.trans hcharacter
  by_cases hkind : token.kind = .number
  · obtain ⟨⟨digit, more, htext, hdigit, -⟩, -⟩ := hcut.number hkind
    rw [htext] at hfirst
    obtain rfl : digit = character := Option.some.inj hfirst
    simp [hdigit, hkind]
  · obtain ⟨only, htext, hdigit, -⟩ := hcut.single hkind
    rw [htext] at hfirst
    obtain rfl : only = character := Option.some.inj hfirst
    simp [hdigit, hkind]

theorem text_eq_of_finish_eq (hfirst : first.CutFrom source) (hsecond : second.CutFrom source)
    (hstart : first.start = second.start) (hfinish : first.finish = second.finish) :
    first.text = second.text := by
  apply String.toList_inj.1
  rw [← hfirst.text, ← hsecond.text, hstart, hfinish]

theorem length_eq_one (hcut : token.CutFrom source) (hkind : token.kind ≠ .number) :
    token.length = 1 := by
  obtain ⟨only, htext, -⟩ := hcut.single hkind
  rw [Token.length, ← String.length_toList, htext, List.length_singleton]

/-- The text of a token that is no number decides its kind. -/
theorem kind_eq_of_text_eq (hfirst : first.CutFrom source) (hsecond : second.CutFrom source)
    (htext : first.text = second.text) (hkind : first.kind ≠ .number)
    (hother : second.kind ≠ .number) : first.kind = second.kind := by
  obtain ⟨character, honly, -, hoperator, hparenthesis⟩ := hfirst.single hkind
  obtain ⟨same, honlySecond, -, hoperatorSecond, hparenthesisSecond⟩ := hsecond.single hother
  obtain rfl : character = same := by
    rw [htext, honlySecond] at honly
    exact (List.cons.inj honly).1.symm
  rw [← hoperatorSecond] at hoperator
  rw [← hparenthesisSecond] at hparenthesis
  cases hfirstKind : first.kind <;> cases hsecondKind : second.kind <;> simp_all

/-- Only one token can be cut from a source at a place. -/
theorem eq_of_start_eq (hfirst : first.CutFrom source) (hsecond : second.CutFrom source)
    (hstart : first.start = second.start) : first = second := by
  obtain ⟨character, hcharacter, -⟩ := hfirst.exists_getElem?_eq_some hfirst.length_pos
  have hkinds : first.kind = .number ↔ second.kind = .number := by
    rw [← hfirst.isDigit_start_iff hcharacter, ← hsecond.isDigit_start_iff (hstart ▸ hcharacter)]
  have hparts : first.kind = second.kind ∧ first.text = second.text := by
    by_cases hkind : first.kind = .number
    · have hother := hkinds.1 hkind
      refine ⟨hkind.trans hother.symm, ?_⟩
      apply hfirst.text_eq_of_finish_eq hsecond hstart
      apply Nat.le_antisymm
      · exact hsecond.finish_le_of_number hfirst hstart.symm hother hkind
      · exact hfirst.finish_le_of_number hsecond hstart hkind hother
    · have hother : second.kind ≠ .number := fun hnumber => hkind (hkinds.2 hnumber)
      have htext : first.text = second.text := by
        apply hfirst.text_eq_of_finish_eq hsecond hstart
        rw [Token.finish, Token.finish, hstart, hfirst.length_eq_one hkind,
          hsecond.length_eq_one hother]
      exact ⟨hfirst.kind_eq_of_text_eq hsecond htext hkind hother, htext⟩
  obtain ⟨hkind, htext⟩ := hparts
  cases first
  cases second
  simp_all

end Token.CutFrom

/-! ### Uniqueness -/

namespace Segmentation

variable {source : List Char} {place : Nat} {token : Token} {tokens first second : List Token}

/-- A segmentation does not skip the start of a token, since no blank stands there. -/
theorem exists_covers (hsegments : Segmentation source place tokens)
    (hcut : token.CutFrom source) (hplace : place ≤ token.start) :
    ∃ other ∈ tokens, other.Covers token.start := by
  obtain ⟨character, hcharacter, htext⟩ := hcut.exists_getElem?_eq_some hcut.length_pos
  by_contra hskipped
  have hnone : ∀ other ∈ tokens, ¬ other.Covers token.start :=
    fun other hmem hcovers => hskipped ⟨other, hmem, hcovers⟩
  have hblank := hsegments.gaps token.start character hplace hcharacter hnone
  exact hcut.solid character (List.mem_of_getElem? htext) hblank

theorem tail (hsegments : Segmentation source place (token :: tokens)) :
    Segmentation source token.finish tokens := by
  obtain ⟨hbefore, hordered⟩ := List.pairwise_cons.1 hsegments.ordered
  refine ⟨fun other hmem => hsegments.cut other (List.mem_cons_of_mem _ hmem), hbefore,
    hordered, ?_⟩
  intro index character hindex hcharacter hnone
  have hstart := hsegments.start token List.mem_cons_self
  have hnonempty := (hsegments.cut token List.mem_cons_self).nonempty
  apply hsegments.gaps index character (by omega) hcharacter
  intro other hmem
  rcases List.mem_cons.1 hmem with rfl | hmem
  · rintro ⟨-, hbelow⟩
    omega
  · exact hnone other hmem

/-- The first token starts no later than any token that can be cut from the source. -/
theorem start_le (hsegments : Segmentation source place (token :: tokens)) {other : Token}
    (hcut : other.CutFrom source) (hplace : place ≤ other.start) :
    token.start ≤ other.start := by
  obtain ⟨covering, hmem, hcovers⟩ := hsegments.exists_covers hcut hplace
  rcases List.mem_cons.1 hmem with rfl | hmem
  · exact hcovers.1
  · have hbefore : token.finish ≤ covering.start :=
      (List.pairwise_cons.1 hsegments.ordered).1 covering hmem
    have hnonempty := (hsegments.cut token List.mem_cons_self).nonempty
    have hcovered := hcovers.1
    omega

/-- A source has at most one segmentation. -/
theorem unique (hfirst : Segmentation source place first)
    (hsecond : Segmentation source place second) : first = second := by
  induction first generalizing place second with
  | nil =>
      cases second with
      | nil => rfl
      | cons other others =>
          obtain ⟨_, hmem, -⟩ := hfirst.exists_covers (hsecond.cut other List.mem_cons_self)
            (hsecond.start other List.mem_cons_self)
          exact absurd hmem List.not_mem_nil
  | cons token tokens ih =>
      have hcut := hfirst.cut token List.mem_cons_self
      have hplace := hfirst.start token List.mem_cons_self
      cases second with
      | nil =>
          obtain ⟨_, hmem, -⟩ := hsecond.exists_covers hcut hplace
          exact absurd hmem List.not_mem_nil
      | cons other others =>
          have hotherCut := hsecond.cut other List.mem_cons_self
          have hotherPlace := hsecond.start other List.mem_cons_self
          obtain rfl : token = other := by
            apply hcut.eq_of_start_eq hotherCut
            exact Nat.le_antisymm (hfirst.start_le hotherCut hotherPlace)
              (hsecond.start_le hcut hplace)
          rw [ih hfirst.tail hsecond.tail]

/-! ### Existence -/

theorem nil (hend : source.drop place = []) : Segmentation source place [] := by
  refine ⟨by simp, by simp, List.Pairwise.nil, ?_⟩
  intro index character hindex hcharacter _
  have hlength : source.length ≤ place := List.drop_eq_nil_iff.1 hend
  rw [List.getElem?_eq_none (by omega)] at hcharacter
  exact absurd hcharacter (by simp)

/-- A blank may come before a segmentation. -/
theorem blank {character : Char} (hcharacter : source[place]? = some character)
    (hblank : isWhitespace character = true)
    (hsegments : Segmentation source (place + 1) tokens) : Segmentation source place tokens := by
  refine ⟨hsegments.cut, ?_, hsegments.ordered, ?_⟩
  · intro token hmem
    exact Nat.le_of_succ_le (hsegments.start token hmem)
  · intro index other hindex hother hnone
    rcases Nat.eq_or_lt_of_le hindex with rfl | hbehind
    · obtain rfl : character = other := Option.some.inj (hcharacter.symm.trans hother)
      exact CharClass.isWhitespace_iff_mem.1 hblank
    · exact hsegments.gaps index other hbehind hother hnone

theorem cons (hcut : token.CutFrom source)
    (hsegments : Segmentation source token.finish tokens) :
    Segmentation source token.start (token :: tokens) := by
  have hnonempty := hcut.nonempty
  refine ⟨?_, ?_, ?_, ?_⟩
  · exact List.forall_mem_cons.2 ⟨hcut, hsegments.cut⟩
  · intro other hmem
    rcases List.mem_cons.1 hmem with rfl | hmem
    · exact Nat.le_refl _
    · have hstart := hsegments.start other hmem
      omega
  · exact List.pairwise_cons.2 ⟨hsegments.start, hsegments.ordered⟩
  · intro index character hindex hcharacter hnone
    obtain ⟨houtside, hothers⟩ := List.forall_mem_cons.1 hnone
    apply hsegments.gaps index character _ hcharacter hothers
    apply Nat.le_of_not_lt
    exact fun hbelow => houtside ⟨hindex, hbelow⟩

end Segmentation

namespace Lexer

variable {source : List Char} {place : Nat} {character : Char} {characters : List Char}

theorem isOperator_iff_mem :
    CharClass.isOperator character = true ↔ character ∈ ['+', '-', '*', '/'] := by
  rw [CharClass.isOperator, Option.isSome_iff_exists]
  constructor
  · rintro ⟨operator, hspelled⟩
    rw [← Operator.symbol_eq_of_ofSymbol? hspelled]
    cases operator <;> decide
  · intro hmem
    simp only [List.mem_cons, List.not_mem_nil, or_false] at hmem
    rcases hmem with rfl | rfl | rfl | rfl <;> exact ⟨_, rfl⟩

/-- The kind of a single character, by what the character is. -/
theorem singleKind_iff_mem :
    (singleKind character = .operator ↔ character ∈ ['+', '-', '*', '/']) ∧
      (singleKind character = .parenthesis ↔ character ∈ ['(', ')']) := by
  have hparentheses : (CharClass.isLeftParen character || CharClass.isRightParen character) = true ↔
      character ∈ ['(', ')'] := by
    simp [CharClass.isLeftParen, CharClass.isRightParen]
  by_cases hoperator : character ∈ ['+', '-', '*', '/']
  · simp only [List.mem_cons, List.not_mem_nil, or_false] at hoperator
    rcases hoperator with rfl | rfl | rfl | rfl <;> decide
  · rw [singleKind, if_neg (fun hspelled => hoperator (isOperator_iff_mem.1 hspelled))]
    by_cases hparen : character ∈ ['(', ')']
    · rw [if_pos (hparentheses.2 hparen)]
      simp only [reduceCtorEq, hoperator, hparen, and_self]
    · rw [if_neg (fun hspelled => hparen (hparentheses.1 hspelled))]
      simp only [reduceCtorEq, hoperator, hparen, and_self]

/-- Behind a token that comes next in the source, the source goes on. -/
theorem drop_finish (token : Token) {rest : List Char}
    (hdrop : source.drop token.start = token.text.toList ++ rest) :
    source.drop token.finish = rest := by
  rw [Token.finish, Token.length, ← String.length_toList, ← List.drop_drop, hdrop, List.drop_left]

/-- A token whose text comes next in the source stands there as it says. -/
theorem span_of_drop_eq (token : Token) {rest : List Char}
    (hdrop : source.drop token.start = token.text.toList ++ rest)
    (hnonempty : token.text.toList ≠ []) :
    token.start < token.finish ∧ token.finish ≤ source.length ∧
      stretch source token.start token.finish = token.text.toList := by
  have hfinish : token.finish = token.start + token.text.toList.length := by
    rw [Token.finish, Token.length, String.length_toList]
  have hpositive : 0 < token.text.toList.length := List.length_pos_iff.2 hnonempty
  have htotal := congrArg List.length hdrop
  rw [List.length_drop, List.length_append] at htotal
  refine ⟨by omega, by omega, ?_⟩
  rw [stretch, hdrop, hfinish, Nat.add_sub_cancel_left, List.take_left]

/-- A digit and all that continues it is cut from the source as a number. -/
theorem cutFrom_number {more rest : List Char}
    (hdrop : source.drop place = (character :: more) ++ rest)
    (hdigit : isDigit character = true)
    (hmore : ∀ other ∈ more, continuesNumber other = true)
    (hstops : ∀ next ∈ rest.head?, continuesNumber next = false) :
    (⟨.number, String.ofList (character :: more), place⟩ : Token).CutFrom source := by
  have htext : (String.ofList (character :: more)).toList = character :: more :=
    String.toList_ofList
  have hsource : source.drop place = (String.ofList (character :: more)).toList ++ rest := by
    rw [htext, hdrop]
  have hrest := drop_finish ⟨.number, String.ofList (character :: more), place⟩ hsource
  obtain ⟨hnonempty, hinside, hstretch⟩ :=
    span_of_drop_eq ⟨.number, String.ofList (character :: more), place⟩ hsource (by simp)
  refine ⟨hnonempty, hinside, hstretch, ?_, ?_, fun hkind => absurd rfl hkind⟩
  · intro other hmem hblank
    rw [← CharClass.isWhitespace_iff_mem] at hblank
    rw [htext] at hmem
    rcases List.mem_cons.1 hmem with rfl | hmem
    · simp [isWhitespace_eq_false_of_isDigit hdigit] at hblank
    · have hcontinues := hmore other hmem
      simp [continuesNumber_eq_false_of_isWhitespace hblank] at hcontinues
  · intro _
    refine ⟨⟨character, more, htext, hdigit, hmore⟩, ?_⟩
    intro next hnext
    apply CharClass.continuesNumber_eq_false_iff.1
    apply hstops
    rw [← hrest, List.head?_drop]
    exact hnext

/-- Every other character is cut from the source on its own. -/
theorem cutFrom_single (hdrop : source.drop place = character :: characters)
    (hblank : isWhitespace character = false) (hdigit : isDigit character = false) :
    (⟨singleKind character, String.singleton character, place⟩ : Token).CutFrom source := by
  have htext : (String.singleton character).toList = [character] :=
    String.toList_singleton character
  have hsource : source.drop place = (String.singleton character).toList ++ characters := by
    rw [htext, hdrop]
    rfl
  obtain ⟨hnonempty, hinside, hstretch⟩ :=
    span_of_drop_eq ⟨singleKind character, String.singleton character, place⟩ hsource (by simp)
  refine ⟨hnonempty, hinside, hstretch, ?_, ?_, ?_⟩
  · intro other hmem
    rw [htext, List.mem_singleton] at hmem
    rw [hmem, ← CharClass.isWhitespace_iff_mem, hblank]
    exact Bool.false_ne_true
  · intro hkind
    exact absurd hkind (singleKind_ne_number character)
  · intro _
    exact ⟨character, htext, hdigit, singleKind_iff_mem⟩

/-- The tokens cut from the left are a segmentation. -/
theorem segmentation_tokens (hdrop : source.drop place = characters) :
    Segmentation source place (⟨characters, place⟩ : Lexer).tokens := by
  induction characters using cutInduction generalizing place with
  | nil =>
      rw [tokens_nil]
      exact Segmentation.nil hdrop
  | blank character rest hblank ih =>
      have hcharacter : source[place]? = some character := by
        rw [← List.head?_drop, hdrop, List.head?_cons]
      have hrest : source.drop (place + 1) = rest := by
        rw [← List.tail_drop, hdrop, List.tail_cons]
      rw [tokens_cons_of_isWhitespace _ _ hblank]
      exact Segmentation.blank hcharacter hblank (ih hrest)
  | number character rest hdigit ih =>
      have hsource : source.drop place = (character :: rest.takeWhile continuesNumber) ++
          rest.dropWhile continuesNumber := by
        rw [hdrop, List.cons_append, List.takeWhile_append_dropWhile]
      have hstops : ∀ next ∈ (rest.dropWhile continuesNumber).head?,
          continuesNumber next = false := by
        intro next hnext
        have hnot := List.head?_dropWhile_not continuesNumber rest
        rw [Option.mem_def.1 hnext] at hnot
        exact hnot
      have hcut := cutFrom_number hsource hdigit (fun _ hmem => List.mem_takeWhile_imp hmem) hstops
      have hfinish : (⟨.number, String.ofList (character :: rest.takeWhile continuesNumber),
          place⟩ : Token).finish = place + 1 + (rest.takeWhile continuesNumber).length :=
        finish_number _ _
      rw [tokens_cons_of_isDigit _ _ hdigit]
      apply Segmentation.cons hcut
      rw [hfinish]
      apply ih
      rw [← hfinish]
      apply drop_finish
      rw [String.toList_ofList]
      exact hsource
  | single character rest hblank hdigit ih =>
      have hrest : source.drop (place + 1) = rest := by
        rw [← List.tail_drop, hdrop, List.tail_cons]
      have hfinish : (⟨singleKind character, String.singleton character, place⟩ :
          Token).finish = place + 1 := by
        rw [Token.finish, Token.length, String.length_singleton]
      rw [tokens_cons_of_single _ _ hblank hdigit]
      apply Segmentation.cons (cutFrom_single hdrop hblank hdigit)
      rw [hfinish]
      exact ih hrest

end Lexer

theorem segmentation_tokenize (source : String) :
    Segmentation source.toList 0 (tokenize source) :=
  Lexer.segmentation_tokens rfl

/-- The tokens of a source are its only segmentation. -/
theorem tokenize_eq_iff_segmentation (source : String) (tokens : List Token) :
    tokenize source = tokens ↔ Segmentation source.toList 0 tokens := by
  have hsegments := segmentation_tokenize source
  constructor
  · rintro rfl
    exact hsegments
  · exact hsegments.unique

/-- The dot in front of a digit and the letter are tokens of their own, the dots
behind a digit are not. -/
example : tokenize ".5 +1..2x" =
    [⟨.unknown, ".", 0⟩, ⟨.number, "5", 1⟩, ⟨.operator, "+", 3⟩, ⟨.number, "1..2", 4⟩,
      ⟨.unknown, "x", 8⟩] := by
  cbv

end Calculator
