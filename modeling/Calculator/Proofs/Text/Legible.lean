import Mathlib.Data.List.TakeWhile

/-!
# Text that can be told apart

Values are written in front of the text that follows them.  A value is legible if equal
texts can only come from equal values with equal text behind them, so that the text
shows the value and the place where the value ends.  Legibility is built up as text is:
a run of characters of one class ends where another class begins, and a list of legible
items is legible if its separator and its end can be told from each other and from the
start of an item.
-/

namespace Calculator.Text

/-- The value can be told from all others of a sort, and what follows it is known too, as
long as it is such as may follow. -/
def Legible {α : Type} (write : α → List Char → List Char) (Among : α → Prop)
    (Follows : List Char → Prop) (value : α) : Prop :=
  ∀ ⦃other : α⦄, Among other → ∀ ⦃rest remainder : List Char⦄, Follows rest →
    Follows remainder → write value rest = write other remainder →
      value = other ∧ rest = remainder

/-! ### Runs of characters -/

/-- What follows does not start with a character of the class. -/
def Leaves (inClass : Char → Bool) (rest : List Char) : Prop :=
  ∀ character ∈ rest.head?, inClass character = false

theorem takeWhile_of_leaves {inClass : Char → Bool} {rest : List Char}
    (hrest : Leaves inClass rest) : rest.takeWhile inClass = [] := by
  cases rest with
  | nil => rfl
  | cons character tail =>
      have hcharacter := hrest character rfl
      exact List.takeWhile_cons_of_neg (by simp [hcharacter])

/-- A run of characters of one class is followed by none of them. -/
theorem legible_run (inClass : Char → Bool) {run : List Char}
    (hrun : ∀ character ∈ run, inClass character = true) :
    Legible (· ++ ·) (fun other => ∀ character ∈ other, inClass character = true)
      (Leaves inClass) run := by
  intro other hother rest remainder hrest hremainder htext
  have htaken := congrArg (List.takeWhile inClass) htext
  rw [List.takeWhile_append_of_pos hrun, List.takeWhile_append_of_pos hother,
    takeWhile_of_leaves hrest, takeWhile_of_leaves hremainder, List.append_nil,
    List.append_nil] at htaken
  subst htaken
  exact ⟨rfl, List.append_cancel_left htext⟩

/-! ### Separated items -/

section Separated

variable {α : Type} (write : α → List Char → List Char) (separator : List Char)

/-- Items with a separator in front of each. -/
def writeOthersBefore (items : List α) (rest : List Char) : List Char :=
  items.foldr (fun item text => separator ++ write item text) rest

/-- Items with a separator between each two. -/
def writeEachBefore : List α → List Char → List Char
  | [], rest => rest
  | item :: items, rest => write item (writeOthersBefore write separator items rest)

variable {write separator}

/-- Whatever writes a separator between each two items writes the items in this way. -/
theorem eq_writeEachBefore {each : List α → List Char → List Char}
    (hnil : ∀ rest, each [] rest = rest)
    (hsingle : ∀ item rest, each [item] rest = write item rest)
    (hmore : ∀ item next items rest,
      each (item :: next :: items) rest = write item (separator ++ each (next :: items) rest))
    (items : List α) (rest : List Char) :
    each items rest = writeEachBefore write separator items rest := by
  cases items with
  | nil => exact hnil rest
  | cons item items =>
      induction items generalizing item with
      | nil => exact hsingle item rest
      | cons next items ih =>
          rw [hmore, ih]
          rfl

variable {Among : α → Prop} {Follows : List Char → Prop} {mark : Char} {blank : List Char}

theorem follows_writeOthersBefore (hmark : ∀ text, Follows (mark :: text)) (items : List α)
    {rest : List Char} (hrest : Follows rest) :
    Follows (writeOthersBefore write (mark :: blank) items rest) := by
  cases items with
  | nil => exact hrest
  | cons item items => exact hmark _

/-- The separator shows that there is one more item. -/
theorem legible_writeOthersBefore (hmark : ∀ text, Follows (mark :: text)) {items : List α}
    (hitems : ∀ item ∈ items, Legible write Among Follows item) :
    Legible (writeOthersBefore write (mark :: blank)) (fun others => ∀ other ∈ others, Among other)
      (fun rest => Follows rest ∧ rest.head? ≠ some mark) items := by
  intro others hothers rest remainder hrest hremainder htext
  induction items generalizing others with
  | nil =>
      cases others with
      | nil => exact ⟨rfl, htext⟩
      | cons other others => exact absurd (congrArg List.head? htext) hrest.2
  | cons item items ih =>
      cases others with
      | nil => exact absurd (congrArg List.head? htext).symm hremainder.2
      | cons other others =>
          obtain ⟨hitem, hmore⟩ := List.forall_mem_cons.1 hitems
          obtain ⟨hother, hmoreOthers⟩ := List.forall_mem_cons.1 hothers
          obtain ⟨rfl, htail⟩ := hitem hother (follows_writeOthersBefore hmark items hrest.1)
            (follows_writeOthersBefore hmark others hremainder.1) (List.append_cancel_left htext)
          obtain ⟨rfl, hends⟩ := ih hmore hmoreOthers htail
          exact ⟨rfl, hends⟩

/-- The end of a list can be seen from what follows: neither a separator nor an item. -/
structure Closes (Follows : List Char → Prop) (mark : Char) (Opens : Char → Prop)
    (rest : List Char) : Prop where
  follows : Follows rest
  no_mark : rest.head? ≠ some mark
  no_item : ∀ character ∈ rest.head?, ¬ Opens character

theorem closes_cons {Opens : Char → Prop} {character : Char} {rest : List Char}
    (hfollows : Follows (character :: rest)) (hmark : character ≠ mark)
    (hopens : ¬ Opens character) : Closes Follows mark Opens (character :: rest) where
  follows := hfollows
  no_mark := fun hhead => hmark (Option.some.inj hhead)
  no_item := by
    rintro _ ⟨⟩
    exact hopens

theorem not_closes_writeEachBefore {Opens : Char → Prop}
    (hopens : ∀ item rest, ∃ character ∈ (write item rest).head?, Opens character)
    (item : α) (items : List α) (rest : List Char) :
    ¬ Closes Follows mark Opens (writeEachBefore write separator (item :: items) rest) := by
  intro hcloses
  obtain ⟨character, hhead, hopen⟩ := hopens item (writeOthersBefore write separator items rest)
  exact hcloses.no_item character hhead hopen

theorem legible_writeEachBefore {Opens : Char → Prop} (hmark : ∀ text, Follows (mark :: text))
    (hopens : ∀ item rest, ∃ character ∈ (write item rest).head?, Opens character)
    {items : List α} (hitems : ∀ item ∈ items, Legible write Among Follows item) :
    Legible (writeEachBefore write (mark :: blank)) (fun others => ∀ other ∈ others, Among other)
      (Closes Follows mark Opens) items := by
  intro others hothers rest remainder hrest hremainder htext
  cases items with
  | nil =>
      cases others with
      | nil => exact ⟨rfl, htext⟩
      | cons other others =>
          obtain rfl : rest = writeEachBefore write (mark :: blank) (other :: others) remainder :=
            htext
          exact absurd hrest (not_closes_writeEachBefore hopens other others remainder)
  | cons item items =>
      cases others with
      | nil =>
          obtain rfl : writeEachBefore write (mark :: blank) (item :: items) rest = remainder :=
            htext
          exact absurd hremainder (not_closes_writeEachBefore hopens item items rest)
      | cons other others =>
          obtain ⟨hitem, hmore⟩ := List.forall_mem_cons.1 hitems
          obtain ⟨hother, hmoreOthers⟩ := List.forall_mem_cons.1 hothers
          obtain ⟨rfl, htail⟩ := hitem hother
            (follows_writeOthersBefore hmark items hrest.follows)
            (follows_writeOthersBefore hmark others hremainder.follows) htext
          obtain ⟨rfl, hends⟩ := legible_writeOthersBefore hmark hmore hmoreOthers
            ⟨hrest.follows, hrest.no_mark⟩ ⟨hremainder.follows, hremainder.no_mark⟩ htail
          exact ⟨rfl, hends⟩

end Separated

end Calculator.Text
