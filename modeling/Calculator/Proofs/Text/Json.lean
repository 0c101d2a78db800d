import Calculator.Proofs.Text.Legible
import Calculator.Text.Json
import Mathlib.Data.List.Perm.Basic

/-!
# JSON text can be told apart

Every JSON value is known from its text.  A text in quotes ends at the first quote that is
no part of an escape, and escapes can be read back; a count ends where the digits do; an
array or object is a bracketed list of legible items.  Sorting the fields of all objects
loses nothing but their order: where a field goes depends on the keys alone, so that of
two objects with the same keys each field has one place, and its value can be found there.
-/

namespace Calculator.Json

open Text

/-! ### Quoted text -/

def hexValue (digit : Char) : Nat :=
  if digit.toNat < 58 then digit.toNat - 48 else digit.toNat - 87

theorem hexValue_hexDigit : ∀ value < 16, hexValue (hexDigit value) = value := by
  decide

/-- Reads back the character that is escaped at the start of a text. -/
def unescape : List Char → Option (Char × List Char)
  | '\\' :: 'u' :: _ :: _ :: high :: low :: rest =>
      some (Char.ofNat (hexValue high * 16 + hexValue low), rest)
  | '\\' :: 'b' :: rest => some ('\x08', rest)
  | '\\' :: 'f' :: rest => some ('\x0c', rest)
  | '\\' :: 'n' :: rest => some ('\n', rest)
  | '\\' :: 'r' :: rest => some ('\r', rest)
  | '\\' :: 't' :: rest => some ('\t', rest)
  | '\\' :: character :: rest => some (character, rest)
  | character :: rest => some (character, rest)
  | [] => none

theorem unescape_cons {character : Char} (hplain : character ≠ '\\') (rest : List Char) :
    unescape (character :: rest) = some (character, rest) := by
  unfold unescape
  split <;> simp_all

theorem unescape_escape (character : Char) (rest : List Char) :
    unescape (escape character ++ rest) = some (character, rest) := by
  unfold escape
  split
  case h_8 _ hplain _ _ _ _ _ =>
    -- Characters without a short escape: control characters have a numeric one, others none.
    split
    · rename_i hcontrol
      have hhigh : character.toNat / 16 < 16 := by omega
      have hlow : character.toNat % 16 < 16 := Nat.mod_lt _ (by decide)
      simp only [List.cons_append, List.nil_append, unescape, hexValue_hexDigit _ hhigh,
        hexValue_hexDigit _ hlow, Nat.div_add_mod', Char.ofNat_toNat]
    · exact unescape_cons hplain rest
  all_goals rfl

/-- No escape starts with a quote. -/
theorem escape_append_ne_quote (character : Char) (rest remainder : List Char) :
    escape character ++ rest ≠ '"' :: remainder := by
  intro htext
  have hread := congrArg unescape htext
  rw [unescape_escape, unescape_cons (by decide)] at hread
  obtain ⟨rfl, -⟩ := Prod.mk.inj (Option.some.inj hread)
  exact absurd (List.cons.inj htext).1 (by decide)

theorem quoted_inj {text other rest remainder : List Char}
    (hquoted : text.flatMap escape ++ '"' :: rest = other.flatMap escape ++ '"' :: remainder) :
    text = other ∧ rest = remainder := by
  induction text generalizing other with
  | nil =>
      cases other with
      | nil => exact ⟨rfl, (List.cons.inj hquoted).2⟩
      | cons character more =>
          rw [List.flatMap_cons, List.append_assoc] at hquoted
          exact absurd hquoted.symm (escape_append_ne_quote _ _ _)
  | cons character more ih =>
      cases other with
      | nil =>
          rw [List.flatMap_cons, List.append_assoc] at hquoted
          exact absurd hquoted (escape_append_ne_quote _ _ _)
      | cons letter others =>
          rw [List.flatMap_cons, List.flatMap_cons, List.append_assoc, List.append_assoc]
            at hquoted
          have hread := congrArg unescape hquoted
          rw [unescape_escape, unescape_escape] at hread
          obtain ⟨rfl, hmore⟩ := Prod.mk.inj (Option.some.inj hread)
          obtain ⟨rfl, hends⟩ := ih hmore
          exact ⟨rfl, hends⟩

theorem legible_quoteBefore (text : String) :
    Legible quoteBefore (fun _ => True) (fun _ => True) text := by
  intro other _ rest remainder _ _ htext
  obtain ⟨hcharacters, hends⟩ := quoted_inj (List.cons.inj htext).2
  exact ⟨String.toList_inj.1 hcharacters, hends⟩

/-! ### Values -/

theorem toList_toString (value : Nat) : (toString value).toList = Nat.toDigits 10 value := by
  rw [Nat.toString_eq_ofList_toDigits, String.toList_ofList]

theorem isDigit_of_mem_toString {value : Nat} :
    ∀ character ∈ (toString value).toList, character.isDigit = true := by
  intro character hmem
  rw [toList_toString] at hmem
  exact Nat.isDigit_of_mem_toDigits (by decide) (by decide) hmem

theorem toString_inj {first second : Nat}
    (htext : (toString first).toList = (toString second).toList) : first = second := by
  have hvalue := congrArg (Nat.ofDigitChars 10 · 0) htext
  simpa only [toList_toString, Nat.ofDigitChars_ten_toDigits] using hvalue

/-- What stands at the start of a value: a sign of its own, or a digit if it is a count. -/
def leader : Json → Option Char
  | count _ => none
  | string _ => some '"'
  | array _ => some '['
  | object _ => some '\x7b'

def OpensValue (character : Char) : Prop :=
  character.isDigit = true ∨ character = '"' ∨ character = '[' ∨ character = '\x7b'

theorem exists_digit_toString (value : Nat) (rest : List Char) :
    ∃ digit ∈ ((toString value).toList ++ rest).head?, digit.isDigit = true := by
  have hsome : (toString value).toList ≠ [] := by
    rw [toList_toString]
    exact Nat.toDigits_ne_nil
  obtain ⟨digit, more, hdigits⟩ := List.exists_cons_of_ne_nil hsome
  refine ⟨digit, ?_, isDigit_of_mem_toString digit (hdigits ▸ List.mem_cons_self)⟩
  rw [hdigits]
  rfl

theorem exists_head?_writeBefore (json : Json) (rest : List Char) :
    ∃ character ∈ (json.writeBefore rest).head?, OpensValue character := by
  cases json with
  | count value =>
      obtain ⟨digit, hhead, hdigit⟩ := exists_digit_toString value rest
      exact ⟨digit, hhead, .inl hdigit⟩
  | string text => exact ⟨'"', rfl, .inr (.inl rfl)⟩
  | array items => exact ⟨'[', rfl, .inr (.inr (.inl rfl))⟩
  | object fields => exact ⟨'\x7b', rfl, .inr (.inr (.inr rfl))⟩

theorem filter_head?_writeBefore (json : Json) (rest : List Char) :
    (json.writeBefore rest).head?.filter (!·.isDigit) = json.leader := by
  cases json with
  | count value =>
      obtain ⟨digit, hhead, hdigit⟩ := exists_digit_toString value rest
      rw [writeBefore, Option.mem_def.1 hhead, leader]
      simp [hdigit]
  | string text => rfl
  | array items => rfl
  | object fields => rfl

/-- The start of the text tells the four sorts of values from each other. -/
theorem leader_eq_of_writeBefore_eq {first second : Json} {rest remainder : List Char}
    (htext : first.writeBefore rest = second.writeBefore remainder) :
    first.leader = second.leader := by
  rw [← filter_head?_writeBefore first rest, htext, filter_head?_writeBefore]

/-- No digit may follow a value, lest it continue a count. -/
abbrev FollowsValue : List Char → Prop :=
  Leaves Char.isDigit

theorem followsValue_cons {character : Char} (hother : character.isDigit = false)
    (rest : List Char) : FollowsValue (character :: rest) := by
  rintro _ ⟨⟩
  exact hother

theorem writeItemsBefore_eq (items : List Json) (rest : List Char) :
    writeItemsBefore items rest = Text.writeEachBefore writeBefore [','] items rest :=
  eq_writeEachBefore (fun _ => rfl) (fun _ _ => rfl) (fun _ _ _ _ => rfl) items rest

/-- One field of an object. -/
def writeFieldBefore (field : String × Json) (rest : List Char) : List Char :=
  quoteBefore field.1 (':' :: field.2.writeBefore rest)

theorem writeFieldsBefore_eq (fields : List (String × Json)) (rest : List Char) :
    writeFieldsBefore fields rest = Text.writeEachBefore writeFieldBefore [','] fields rest :=
  eq_writeEachBefore (fun _ => rfl) (fun _ _ => rfl) (fun _ _ _ _ => rfl) fields rest

theorem legible_writeFieldBefore {field : String × Json}
    (hvalue : Legible writeBefore (fun _ => True) FollowsValue field.2) :
    Legible writeFieldBefore (fun _ => True) FollowsValue field := by
  intro other _ rest remainder hrest hremainder htext
  obtain ⟨hkey, hbehind⟩ := legible_quoteBefore field.1 trivial trivial trivial htext
  obtain ⟨hsame, hends⟩ := hvalue trivial hrest hremainder (List.cons.inj hbehind).2
  exact ⟨Prod.ext hkey hsame, hends⟩

mutual

/-- A value is known from its text, as long as no digit follows. -/
theorem legible : ∀ json : Json, Legible writeBefore (fun _ => True) FollowsValue json
  | count value, other, _, rest, remainder, hrest, hremainder, htext => by
      have hleader := leader_eq_of_writeBefore_eq htext
      cases other with
      | count spelled =>
          obtain ⟨hdigits, hends⟩ := legible_run Char.isDigit isDigit_of_mem_toString
            isDigit_of_mem_toString hrest hremainder htext
          exact ⟨congrArg count (toString_inj hdigits), hends⟩
      | string _ | array _ | object _ => simp [leader] at hleader
  | string text, other, _, rest, remainder, _, _, htext => by
      have hleader := leader_eq_of_writeBefore_eq htext
      cases other with
      | string spelled =>
          obtain ⟨rfl, hends⟩ := legible_quoteBefore text trivial trivial trivial htext
          exact ⟨rfl, hends⟩
      | count _ | array _ | object _ => simp [leader] at hleader
  | array items, other, _, rest, remainder, _, _, htext => by
      have hleader := leader_eq_of_writeBefore_eq htext
      cases other with
      | array others =>
          have hlist := (List.cons.inj htext).2
          rw [writeItemsBefore_eq, writeItemsBefore_eq] at hlist
          have hcloses : ∀ tail, Closes FollowsValue ',' OpensValue (']' :: tail) := fun tail =>
            closes_cons (followsValue_cons rfl tail) (by decide) (by simp [OpensValue])
          obtain ⟨rfl, hends⟩ := legible_writeEachBefore (followsValue_cons rfl)
            exists_head?_writeBefore (legible_items items) (fun _ _ => trivial) (hcloses rest)
            (hcloses remainder) hlist
          exact ⟨rfl, (List.cons.inj hends).2⟩
      | count _ | string _ | object _ => simp [leader] at hleader
  | object fields, other, _, rest, remainder, _, _, htext => by
      have hleader := leader_eq_of_writeBefore_eq htext
      cases other with
      | object others =>
          have hlist := (List.cons.inj htext).2
          rw [writeFieldsBefore_eq, writeFieldsBefore_eq] at hlist
          have hopens : ∀ field rest,
              ∃ character ∈ (writeFieldBefore field rest).head?, character = '"' :=
            fun _ _ => ⟨'"', rfl, rfl⟩
          have hcloses : ∀ tail, Closes FollowsValue ',' (· = '"') ('\x7d' :: tail) := fun tail =>
            closes_cons (followsValue_cons rfl tail) (by decide) (by decide)
          obtain ⟨rfl, hends⟩ := legible_writeEachBefore (followsValue_cons rfl) hopens
            (fun field hmem => legible_writeFieldBefore (legible_fields fields field hmem))
            (fun _ _ => trivial) (hcloses rest) (hcloses remainder) hlist
          exact ⟨rfl, (List.cons.inj hends).2⟩
      | count _ | string _ | array _ => simp [leader] at hleader

theorem legible_items : ∀ items : List Json, ∀ item ∈ items,
    Legible writeBefore (fun _ => True) FollowsValue item
  | [] => List.forall_mem_nil _
  | item :: items => List.forall_mem_cons.2 ⟨legible item, legible_items items⟩

theorem legible_fields : ∀ fields : List (String × Json), ∀ field ∈ fields,
    Legible writeBefore (fun _ => True) FollowsValue field.2
  | [] => List.forall_mem_nil _
  | (_, value) :: fields => List.forall_mem_cons.2 ⟨legible value, legible_fields fields⟩

end

theorem render_injective : Function.Injective render := by
  intro first second htext
  have hend : FollowsValue [] := by simp [FollowsValue, Leaves]
  exact (legible first trivial hend hend (String.ofList_injective htext)).1

/-! ### Arrangements of fields -/

/-- Two lists of fields with the same keys in the same order. -/
abbrev SameKeys : List (String × Json) → List (String × Json) → Prop :=
  List.Forall₂ fun field other => field.1 = other.1

/-- The fields of objects may be moved as long as the keys of an object can be told, and
the values of objects with the same keys. -/
structure Faithful (arrange : Json → Json) : Prop where
  string : ∀ text, arrange (.string text) = .string text
  array : ∀ items, arrange (.array items) = .array (items.map arrange)
  keys : ∀ {fields others}, arrange (.object fields) = arrange (.object others) →
    (fields.map Prod.fst).Perm (others.map Prod.fst)
  values : ∀ {fields others}, arrange (.object fields) = arrange (.object others) →
    SameKeys fields others → fields.map (arrange ·.2) = others.map (arrange ·.2)

namespace Faithful

variable {arrange : Json → Json}

theorem string_inj (harrange : Faithful arrange) {text other : String}
    (hjson : arrange (.string text) = arrange (.string other)) : text = other := by
  rw [harrange.string, harrange.string] at hjson
  exact Json.string.inj hjson

theorem array_inj (harrange : Faithful arrange) {items others : List Json}
    (hjson : arrange (.array items) = arrange (.array others)) :
    items.map arrange = others.map arrange := by
  rw [harrange.array, harrange.array] at hjson
  exact Json.array.inj hjson

theorem object_ne (harrange : Faithful arrange) {fields others : List (String × Json)}
    (hkeys : (fields.map Prod.fst).isPerm (others.map Prod.fst) = false) :
    arrange (.object fields) ≠ arrange (.object others) := by
  intro hobject
  rw [List.isPerm_iff.2 (harrange.keys hobject)] at hkeys
  exact Bool.false_ne_true hkeys.symm

end Faithful

theorem faithful_id : Faithful id where
  string _ := rfl
  array items := by rw [List.map_id, id]
  keys hobject := by rw [object.inj hobject]
  values hobject _ := by rw [object.inj hobject]

theorem perm_insertField (key : String) (value : Json) (fields : List (String × Json)) :
    (insertField key value fields).Perm ((key, value) :: fields) := by
  induction fields with
  | nil => exact .refl _
  | cons field fields ih =>
      rw [insertField]
      split
      · exact .refl _
      · exact (ih.cons field).trans (.swap _ _ _)

theorem perm_keys_sortedFields (fields : List (String × Json)) :
    ((sortedFields fields).map Prod.fst).Perm (fields.map Prod.fst) := by
  induction fields with
  | nil => exact .refl _
  | cons field fields ih =>
      exact ((perm_insertField field.1 _ _).map Prod.fst).trans (ih.cons field.1)

namespace SameKeys

variable {key : String} {value other : Json} {fields others : List (String × Json)}

/-- Where a field is inserted depends on the keys alone. -/
theorem inserted (hkeys : SameKeys fields others) :
    SameKeys (insertField key value fields) (insertField key other others) := by
  induction hkeys with
  | nil => exact .cons rfl .nil
  | cons hkey hmore ih =>
      rw [insertField, insertField, hkey]
      split
      · exact .cons rfl (.cons rfl hmore)
      · exact .cons rfl ih

theorem insertField_inj (hkeys : SameKeys fields others)
    (hinserted : insertField key value fields = insertField key other others) :
    value = other ∧ fields = others := by
  -- With the same keys both insertions stop at the same place.
  induction hkeys with
  | nil => exact ⟨(Prod.mk.inj (List.cons.inj hinserted).1).2, rfl⟩
  | cons hkey hmore ih =>
      rw [insertField, insertField, hkey] at hinserted
      split at hinserted
      · obtain ⟨hfield, hsame⟩ := List.cons.inj hinserted
        obtain ⟨hnext, hothers⟩ := List.cons.inj hsame
        exact ⟨(Prod.mk.inj hfield).2,
          congrArg₂ List.cons (Prod.ext hkey (Prod.mk.inj hnext).2) hothers⟩
      · obtain ⟨hnext, hinserted⟩ := List.cons.inj hinserted
        obtain ⟨hvalue, hothers⟩ := ih hinserted
        exact ⟨hvalue, congrArg₂ List.cons (Prod.ext hkey (Prod.mk.inj hnext).2) hothers⟩

theorem allSorted (hkeys : SameKeys fields others) :
    SameKeys (sortedFields fields) (sortedFields others) := by
  induction hkeys with
  | nil => exact .nil
  | cons hkey hmore ih =>
      rw [sortedFields, sortedFields, hkey]
      exact inserted ih

/-- Fields that are the same when sorted have the same values. -/
theorem values_of_sortedFields_eq (hkeys : SameKeys fields others)
    (hsorted : sortedFields fields = sortedFields others) :
    fields.map (·.2.sorted) = others.map (·.2.sorted) := by
  induction hkeys with
  | nil => rfl
  | cons hkey hmore ih =>
      rw [sortedFields, sortedFields, hkey] at hsorted
      obtain ⟨hvalue, hothers⟩ := insertField_inj (allSorted hmore) hsorted
      exact congrArg₂ List.cons hvalue (ih hothers)

end SameKeys

theorem sortedItems_eq_map (items : List Json) : sortedItems items = items.map sorted := by
  induction items with
  | nil => rfl
  | cons item items ih => rw [sortedItems, ih, List.map_cons]

theorem faithful_sorted : Faithful sorted where
  string _ := rfl
  array items := by rw [sorted, sortedItems_eq_map]
  keys := by
    intro fields others hobject
    have hsorted := object.inj hobject
    exact (perm_keys_sortedFields fields).symm.trans (hsorted ▸ perm_keys_sortedFields others)
  values hobject hkeys := hkeys.values_of_sortedFields_eq (object.inj hobject)

end Calculator.Json
