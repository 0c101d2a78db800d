import Calculator.Source.Position
import Mathlib.Data.List.DropRight
import Mathlib.Data.Nat.SuccPred
import Mathlib.Data.Prod.Lex
import Mathlib.Order.Interval.Set.Monotone

/-!
# Lines and columns stand for offsets

The line counts the line feeds that have been passed, and the column the characters since
the last of them.  With each character that is passed, either the line grows or it stays
and the column grows, so line and column, in this order, tell the offsets in a source
apart.  Both are at most one more than the number of characters passed; as long as the
source is short enough for that, they can be counted in 32 bits.
-/

namespace Calculator.Position

/-! ### What is counted -/

theorem foldl_pass (characters : List Char) :
    characters.foldl pass (1, 1) =
      (1 + characters.count '\n', 1 + (characters.rtakeWhile (· != '\n')).length) := by
  -- From the end, since the column depends on the last line feed only.
  induction characters using List.reverseRecOn with
  | nil => rfl
  | append_singleton characters character ih =>
      rw [List.foldl_append, ih, List.foldl_cons, List.foldl_nil, pass, List.count_append]
      by_cases hbreak : character = '\n'
      · subst hbreak
        rw [if_pos rfl, List.rtakeWhile_concat_neg _ _ _ (by simp)]
        rfl
      · have hother : List.count '\n' [character] = 0 := by simp [hbreak]
        rw [if_neg hbreak, hother, List.rtakeWhile_concat_pos _ _ _ (by simp [hbreak]),
          List.length_append]
        rfl

variable {source : String}

theorem ofOffset_eq (source : String) (offset : Nat) :
    ofOffset source offset =
      ⟨1 + (source.toList.take offset).count '\n',
        1 + ((source.toList.take offset).rtakeWhile (· != '\n')).length, offset⟩ := by
  rw [ofOffset, foldl_pass]

/-- Behind the end of the source there is nothing more to count. -/
theorem ofOffset_of_length_le {offset : Nat} (hend : source.length ≤ offset) :
    ofOffset source offset = { ofOffset source source.length with offset } := by
  have hall : ∀ bound, source.length ≤ bound → source.toList.take bound = source.toList :=
    fun bound hbound => List.take_of_length_le (String.length_toList ▸ hbound)
  rw [ofOffset, ofOffset, hall offset hend, hall source.length (Nat.le_refl _)]

/-! ### Order -/

/-- Line and column, ordered by line first. -/
def place (position : Position) : Nat ×ₗ Nat :=
  toLex (position.line, position.column)

theorem lt_pass (before : Nat × Nat) (character : Char) :
    toLex before < toLex (pass before character) := by
  rw [pass]
  split
  · exact Prod.Lex.toLex_lt_toLex.2 (.inl (Nat.lt_succ_self _))
  · exact Prod.Lex.toLex_lt_toLex.2 (.inr ⟨rfl, Nat.lt_succ_self _⟩)

/-- One more character moves the position on. -/
theorem place_ofOffset_lt_succ {offset : Nat} (hoffset : offset < source.length) :
    (ofOffset source offset).place < (ofOffset source (offset + 1)).place := by
  have hlength : offset < source.toList.length := String.length_toList ▸ hoffset
  have hpass : (source.toList.take (offset + 1)).foldl pass (1, 1) =
      pass ((source.toList.take offset).foldl pass (1, 1)) source.toList[offset] := by
    rw [← List.take_append_getElem hlength, List.foldl_append]
    rfl
  rw [ofOffset, ofOffset, place, place, hpass]
  exact lt_pass _ _

theorem strictMonoOn_place (source : String) :
    StrictMonoOn (fun offset => (ofOffset source offset).place) (Set.Iic source.length) :=
  strictMonoOn_Iic_of_lt_succ fun _ hoffset => place_ofOffset_lt_succ hoffset

/-! ### Counting in 32 bits -/

/-- The next count, unless it does not fit. -/
def next? (count : UInt32) : Option UInt32 :=
  if count.toNat + 1 < 2 ^ 32 then some (count + 1) else none

/-- Line and column in 32 bits after one more character has been passed, unless one of
them does not fit. -/
def pass? (place : UInt32 × UInt32) (character : Char) : Option (UInt32 × UInt32) :=
  if character = '\n' then (next? place.1).map (·, 1) else (next? place.2).map (place.1, ·)

theorem exists_next? (count : UInt32) (hfits : count.toNat + 1 < 2 ^ 32) :
    ∃ next, next? count = some next ∧ next.toNat = count.toNat + 1 := by
  refine ⟨count + 1, if_pos hfits, ?_⟩
  rw [UInt32.toNat_add]
  exact Nat.mod_eq_of_lt hfits

/-- If there is room for both counts to grow with every character, neither overflows. -/
theorem exists_foldlM_pass? (characters : List Char) (line column : UInt32)
    (hline : line.toNat + characters.length < 2 ^ 32)
    (hcolumn : column.toNat + characters.length < 2 ^ 32) :
    ∃ lines columns, characters.foldlM pass? (line, column) = some (lines, columns) ∧
      (lines.toNat, columns.toNat) = characters.foldl pass (line.toNat, column.toNat) := by
  induction characters generalizing line column with
  | nil => exact ⟨line, column, rfl, rfl⟩
  | cons character characters ih =>
      rw [List.length_cons] at hline hcolumn
      by_cases hbreak : character = '\n'
      · obtain ⟨next, hnext, hcount⟩ := exists_next? line (by omega)
        obtain ⟨lines, columns, hfold, hsame⟩ := ih next 1 (by omega)
          (show 1 + characters.length < 2 ^ 32 by omega)
        refine ⟨lines, columns, ?_, ?_⟩
        · rw [List.foldlM_cons, pass?, if_pos hbreak, hnext]
          exact hfold
        · rw [hsame, hcount, List.foldl_cons, pass, if_pos hbreak]
          rfl
      · obtain ⟨next, hnext, hcount⟩ := exists_next? column (by omega)
        obtain ⟨lines, columns, hfold, hsame⟩ := ih line next (by omega) (by omega)
        refine ⟨lines, columns, ?_, ?_⟩
        · rw [List.foldlM_cons, pass?, if_neg hbreak, hnext]
          exact hfold
        · rw [hsame, hcount, List.foldl_cons, pass, if_neg hbreak]

/-- The position of an offset, counted in 32 bits. -/
def Fits (source : String) (offset : Nat) : Prop :=
  ∃ line column : UInt32,
    (source.toList.take offset).foldlM pass? (1, 1) = some (line, column) ∧
      line.toNat = (ofOffset source offset).line ∧ column.toNat = (ofOffset source offset).column

theorem fits_of_length_lt (hlength : source.length < 2 ^ 32 - 1) (offset : Nat) :
    Fits source offset := by
  have htaken : (source.toList.take offset).length ≤ source.length := by
    rw [List.length_take, String.length_toList]
    exact Nat.min_le_right _ _
  have hroom : (1 : UInt32).toNat + (source.toList.take offset).length < 2 ^ 32 := by
    rw [UInt32.toNat_one]
    omega
  obtain ⟨line, column, hfold, hsame⟩ := exists_foldlM_pass? _ 1 1 hroom hroom
  obtain ⟨hline, hcolumn⟩ := Prod.mk.inj hsame
  exact ⟨line, column, hfold, hline, hcolumn⟩

/-- Line and column identify the offset.  The line is one more than the number of line
feeds before the offset, and the column one more than the number of characters since the
last of them; both can be counted in 32 bits if the source has fewer than `2 ^ 32 - 1`
characters.  From the start of the source to its end they grow with the offset, the line
first, so no two offsets share them; behind the end only the offset goes on. -/
theorem ofOffset_identifies_offset (source : String) (hlength : source.length < 2 ^ 32 - 1) :
    (∀ offset, Fits source offset ∧
      (ofOffset source offset).line = 1 + (source.toList.take offset).count '\n' ∧
      (ofOffset source offset).column =
        1 + ((source.toList.take offset).rtakeWhile (· != '\n')).length ∧
      (ofOffset source offset).offset = offset) ∧
    (∀ first second, first < second → second ≤ source.length →
      (ofOffset source first).place < (ofOffset source second).place) ∧
    (∀ first second, first ≤ source.length → second ≤ source.length →
      (ofOffset source first).line = (ofOffset source second).line →
      (ofOffset source first).column = (ofOffset source second).column → first = second) ∧
    ∀ offset, source.length ≤ offset →
      ofOffset source offset = { ofOffset source source.length with offset } := by
  refine ⟨?_, ?_, ?_, fun _ hend => ofOffset_of_length_le hend⟩
  · intro offset
    refine ⟨fits_of_length_lt hlength offset, ?_⟩
    rw [ofOffset_eq]
    exact ⟨rfl, rfl, rfl⟩
  · intro first second hlt hsecond
    exact strictMonoOn_place source (hlt.le.trans hsecond) hsecond hlt
  · intro first second hfirst hsecond hline hcolumn
    apply (strictMonoOn_place source).injOn hfirst hsecond
    simp only [place, hline, hcolumn]

/-- With a blank line between `1+` and `2`, the line feeds have columns 3 and 1. -/
theorem ofOffset_identifies_offset_of_blank_line :
    let source := "1+\n\n2"
    source.length < 2 ^ 32 - 1 ∧ ofOffset source 2 = ⟨1, 3, 2⟩ ∧ ofOffset source 3 = ⟨2, 1, 3⟩ ∧
      (ofOffset source 2).place < (ofOffset source 3).place ∧ Fits source 3 ∧
      ofOffset source 99 = ⟨3, 2, 99⟩ := by
  intro source
  have hlength : source.length < 2 ^ 32 - 1 := by decide
  obtain ⟨hcounted, hgrows, -, hend⟩ := ofOffset_identifies_offset source hlength
  refine ⟨hlength, by decide, by decide, hgrows 2 3 (by decide) (by decide), (hcounted 3).1, ?_⟩
  rw [hend 99 (by decide)]
  decide

end Calculator.Position
