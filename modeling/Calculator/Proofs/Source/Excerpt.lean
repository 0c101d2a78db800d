import Calculator.Proofs.Token.Locality
import Calculator.Proofs.Token.Restoration
import Calculator.Source.Excerpt
import Mathlib.Data.List.DropRight

/-!
# What an excerpt shows

The carets of an excerpt stand under the characters they are meant for: the line above
them starts ten characters before the place, or with the source if there are fewer, and
as many blanks stand before the carets.  Flattening keeps the columns.  Trimming may take
away the end of the line, but nothing that is not blank, so that a text which ends in
something visible is always shown whole.
-/

namespace Calculator

/-! ### Trimming -/

namespace Text

theorem trimEnd_eq_rdropWhile (characters : List Char) :
    trimEnd characters = characters.rdropWhile isBlank := rfl

/-- Trimming takes away blanks at the end, and all of them. -/
theorem exists_trailing (characters : List Char) :
    ∃ trailing, characters = trimEnd characters ++ trailing ∧
      (∀ character ∈ trailing, isBlank character = true) ∧
      ∀ last ∈ (trimEnd characters).getLast?, isBlank last = false := by
  refine ⟨characters.rtakeWhile isBlank, ?_, ?_, ?_⟩
  · rw [trimEnd_eq_rdropWhile, List.rdropWhile_append_rtakeWhile]
  · intro character hmem
    exact List.mem_rtakeWhile_imp hmem
  · intro last hlast
    have hnonempty : trimEnd characters ≠ [] := List.ne_nil_of_mem (List.mem_of_getLast? hlast)
    rw [← (List.getLast_eq_iff_getLast?_eq_some hnonempty).2 hlast]
    exact Bool.eq_false_iff.2 (List.rdropWhile_last_not _ _ hnonempty)

/-- What ends in something visible is not cut by trimming. -/
theorem prefix_of_trimmed {front behind shown trailing : List Char}
    (hsame : front ++ behind = shown ++ trailing)
    (htrailing : ∀ character ∈ trailing, isBlank character = true)
    (hlast : ∀ last ∈ front.getLast?, isBlank last = false) : front <+: shown := by
  rcases List.append_eq_append_iff.1 hsame with ⟨more, hshown, -⟩ | ⟨more, hfront, hmore⟩
  · exact ⟨more, hshown.symm⟩
  · cases hend : more.getLast? with
    | none =>
        have hnothing : more = [] := List.getLast?_eq_none_iff.1 hend
        exact ⟨[], by rw [hfront, hnothing, List.append_nil, List.append_nil]⟩
    | some last =>
        -- The last character of the front would have been taken away as a blank.
        have hvisible : isBlank last = false := by
          apply hlast
          rw [hfront, List.getLast?_append, hend]
          rfl
        have hblank : isBlank last = true := by
          apply htrailing
          rw [hmore]
          exact List.mem_append_left _ (List.mem_of_getLast? hend)
        rw [hvisible] at hblank
        exact absurd hblank Bool.false_ne_true

end Text

/-! ### The two lines -/

namespace Excerpt

open Text (isBlank)

/-- The characters of the source that are shown about `length` characters at a place. -/
def around (source : List Char) (place length : Nat) : List Char :=
  stretch source (place - min place 10) (min (place + length + 10) source.length)

/-- The two lines of an excerpt about `length` characters at a place of the source. -/
structure Shows (source : List Char) (place length : Nat) (shown marks : List Char) : Prop where
  unbroken : '\n' ∉ shown ∧ '\n' ∉ marks
  marked : marks = List.replicate (min place 10) ' ' ++ List.replicate (max length 1) '^'
  trimmed : ∃ trailing, (around source place length).map flatten = shown ++ trailing ∧
    (∀ character ∈ trailing, isBlank character = true) ∧
    ∀ last ∈ shown.getLast?, isBlank last = false
  aligned : ∀ index < length, place + index < source.length →
    shown[min place 10 + index]? = source[place + index]?.map flatten ∨
      shown.length ≤ min place 10 + index ∧
        ∀ character ∈ (around source place length).drop shown.length, isBlank character = true

theorem flatten_ne_newline (character : Char) : flatten character ≠ '\n' := by
  rw [flatten]
  split
  · decide
  · rename_i hplain
    intro hnewline
    simp [hnewline] at hplain

/-- A line break or tab is as blank as the space that stands for it. -/
theorem isBlank_flatten (character : Char) : isBlank (flatten character) = isBlank character := by
  rw [flatten]
  split
  · rename_i hbreak
    simp only [Bool.or_eq_true, decide_eq_true_eq] at hbreak
    rcases hbreak with (rfl | rfl) | rfl <;> rfl
  · rfl

variable {source : List Char} {place length : Nat}

/-- Being cut off at the end of the source makes no difference to a stretch. -/
theorem window_eq_map_around (source : List Char) (place length : Nat) :
    window source place length = (around source place length).map flatten := by
  have hfirst : place - min place 10 = place - radius := by
    rw [radius]
    omega
  rw [window, around, stretch, hfirst]
  refine congrArg (List.map flatten) (List.take_eq_take_iff.2 ?_)
  rw [List.length_drop, radius]
  omega

/-- Column by column, what is shown is the source from the first character shown. -/
theorem getElem?_around {index : Nat} (hindex : index < length)
    (hinside : place + index < source.length) :
    (around source place length)[min place 10 + index]? = source[place + index]? := by
  have hcolumn : place - min place 10 + (min place 10 + index) = place + index := by omega
  rw [around, stretch, List.getElem?_take_of_lt (by omega), List.getElem?_drop, hcolumn]

theorem newline_not_mem_map_flatten (characters : List Char) :
    '\n' ∉ characters.map flatten := by
  intro hmem
  obtain ⟨character, -, hflat⟩ := List.mem_map.1 hmem
  exact flatten_ne_newline character hflat

/-- A column of the line shows its character, or lies where only blanks were trimmed. -/
theorem aligned_of_trimmed {shown trailing : List Char} {index : Nat}
    (hsplit : (around source place length).map flatten = shown ++ trailing)
    (hblank : ∀ character ∈ trailing, isBlank character = true) (hindex : index < length)
    (hinside : place + index < source.length) :
    shown[min place 10 + index]? = source[place + index]?.map flatten ∨
      shown.length ≤ min place 10 + index ∧
        ∀ character ∈ (around source place length).drop shown.length,
          isBlank character = true := by
  by_cases hshown : min place 10 + index < shown.length
  · left
    calc shown[min place 10 + index]?
        = ((around source place length).map flatten)[min place 10 + index]? := by
          rw [hsplit, List.getElem?_append_left hshown]
      _ = source[place + index]?.map flatten := by
          rw [List.getElem?_map, getElem?_around hindex hinside]
  · right
    refine ⟨Nat.le_of_not_lt hshown, ?_⟩
    intro character hmem
    have htrailing : ((around source place length).drop shown.length).map flatten = trailing := by
      rw [List.map_drop, hsplit, List.drop_left]
    rw [← isBlank_flatten]
    apply hblank
    rw [← htrailing]
    exact List.mem_map_of_mem hmem

/-- The two lines of an excerpt are the source around the place and the carets. -/
theorem shows_excerpt (source : String) (offset length : Nat) :
    ∃ shown marks, (excerpt source offset length).toList = shown ++ '\n' :: marks ∧
      Shows source.toList (min offset source.length) length shown marks := by
  have hlines : (excerpt source offset length).toList =
      Text.trimEnd (window source.toList (min offset source.length) length) ++
        '\n' :: marker (min offset source.length) length := by
    rw [excerpt, String.toList_ofList, String.length_toList]
  refine ⟨_, _, hlines, ?_⟩
  rw [window_eq_map_around]
  obtain ⟨trailing, hsplit, hblank, hlast⟩ := Text.exists_trailing
    ((around source.toList (min offset source.length) length).map flatten)
  refine ⟨⟨?_, ?_⟩, rfl, ⟨trailing, hsplit, hblank, hlast⟩, ?_⟩
  · intro hmem
    apply newline_not_mem_map_flatten (around source.toList (min offset source.length) length)
    rw [hsplit]
    exact List.mem_append_left _ hmem
  · simp [marker, List.mem_append, List.mem_replicate]
  · intro index hindex hinside
    exact aligned_of_trimmed hsplit hblank hindex hinside

/-! ### Tokens above the carets -/

/-- A text is shown whole, and there are as many carets below it as it has characters. -/
def Underlines (text shown marks : List Char) : Prop :=
  ∃ before behind, shown = before ++ text ++ behind ∧
    marks = List.replicate before.length ' ' ++ List.replicate text.length '^'

theorem flatten_eq_self {character : Char} (hsolid : character ∉ [' ', '\t', '\n', '\r']) :
    flatten character = character := by
  simp only [List.mem_cons, List.not_mem_nil, or_false, not_or] at hsolid
  simp [flatten, hsolid]

/-- A token cut from the source divides what is shown about it. -/
theorem around_of_cutFrom {token : Token} (hcut : token.CutFrom source) :
    around source token.start token.length =
      stretch source (token.start - min token.start 10) token.start ++ token.text.toList ++
        stretch source token.finish (min (token.finish + 10) source.length) := by
  have hinside := hcut.inside
  have hspan : token.start ≤ token.finish := Nat.le_add_right _ _
  calc around source token.start token.length
      = stretch source (token.start - min token.start 10)
          (min (token.finish + 10) source.length) := rfl
    _ = stretch source (token.start - min token.start 10) token.finish ++
          stretch source token.finish (min (token.finish + 10) source.length) :=
        (stretch_append_stretch source (by omega) (by omega)).symm
    _ = stretch source (token.start - min token.start 10) token.start ++ token.text.toList ++
          stretch source token.finish (min (token.finish + 10) source.length) := by
        rw [← hcut.text, stretch_append_stretch source (Nat.sub_le _ _) hspan]

/-- A token without blanks is shown whole above its carets. -/
theorem underlines_of_cutFrom {token : Token} {shown marks : List Char}
    (hcut : token.CutFrom source)
    (hvisible : ∀ character ∈ token.text.toList, isBlank character = false)
    (hshows : Shows source token.start token.length shown marks) :
    Underlines token.text.toList shown marks := by
  have hflat : token.text.toList.map flatten = token.text.toList := by
    calc token.text.toList.map flatten
        = token.text.toList.map id :=
          List.map_congr_left fun character hmem => flatten_eq_self (hcut.solid character hmem)
      _ = token.text.toList := List.map_id _
  have hnonempty : token.text.toList ≠ [] := by
    apply List.ne_nil_of_length_pos
    rw [String.length_toList]
    exact hcut.length_pos
  obtain ⟨trailing, hsplit, hblank, -⟩ := hshows.trimmed
  rw [around_of_cutFrom hcut, List.map_append, List.map_append, hflat] at hsplit
  obtain ⟨behind, hshown⟩ : _ <+: shown := by
    apply Text.prefix_of_trimmed hsplit hblank
    intro last hlast
    rw [List.getLast?_append_of_ne_nil _ hnonempty] at hlast
    exact hvisible last (List.mem_of_getLast? hlast)
  refine ⟨_, behind, hshown.symm, ?_⟩
  have hstart : token.start ≤ source.length :=
    Nat.le_trans (Nat.le_add_right _ _) hcut.inside
  rw [hshows.marked, List.length_map, length_stretch _ hstart, String.length_toList,
    Nat.sub_sub_self (Nat.min_le_left _ _), Nat.max_eq_left hcut.length_pos]
  rfl

end Excerpt

/-- The line break becomes a blank and the blank at the end is cut. -/
example : excerpt "1+2\n*1.2.3 " 5 5 = "1+2 *1.2.3\n     ^^^^^" := by
  cbv

/-! ### Visible tokens -/

theorem CharClass.isBlank_eq_false_of_continuesNumber {character : Char}
    (hcontinues : continuesNumber character = true) : Text.isBlank character = false := by
  rcases continuesNumber_eq_true_iff.1 hcontinues with hdigit | rfl
  · have hlow : 48 ≤ character.toNat ∧ character.toNat ≤ 57 := by
      simpa [isDigit, Char.le_def, UInt32.le_iff_toNat_le] using hdigit
    simp only [Text.isBlank, Text.blankRanges, List.any_cons, List.any_nil, Bool.or_false,
      Bool.or_eq_false_iff, Bool.and_eq_false_iff, decide_eq_false_iff_not]
    omega
  · decide

/-- A token that the language knows has no blank in it. -/
theorem Token.CutFrom.isBlank_eq_false {source : List Char} {token : Token}
    (hcut : token.CutFrom source) (hkind : token.kind ≠ .unknown) {character : Char}
    (hmem : character ∈ token.text.toList) : Text.isBlank character = false := by
  cases hnamed : token.kind with
  | unknown => exact absurd hnamed hkind
  | number =>
      obtain ⟨⟨first, more, htext, hdigit, hmore⟩, -⟩ := hcut.number hnamed
      apply CharClass.isBlank_eq_false_of_continuesNumber
      rw [htext] at hmem
      rcases List.mem_cons.1 hmem with rfl | hmem
      · exact CharClass.continuesNumber_eq_true_iff.2 (.inl hdigit)
      · exact hmore character hmem
  | operator =>
      have hsymbols : ∀ symbol ∈ ['+', '-', '*', '/'], Text.isBlank symbol = false := by
        simp only [List.mem_cons, List.not_mem_nil, or_false, forall_eq_or_imp, forall_eq]
        decide
      obtain ⟨only, htext, -, hoperator, -⟩ := hcut.single (by rw [hnamed]; decide)
      rw [htext, List.mem_singleton] at hmem
      rw [hmem]
      exact hsymbols only (hoperator.1 hnamed)
  | parenthesis =>
      have hsymbols : ∀ symbol ∈ ['(', ')'], Text.isBlank symbol = false := by
        simp only [List.mem_cons, List.not_mem_nil, or_false, forall_eq_or_imp, forall_eq]
        decide
      obtain ⟨only, htext, -, -, hparenthesis⟩ := hcut.single (by rw [hnamed]; decide)
      rw [htext, List.mem_singleton] at hmem
      rw [hmem]
      exact hsymbols only (hparenthesis.1 hnamed)

end Calculator
