import Calculator.Proofs.Text.Json
import Calculator.Session.Settings

/-!
# The JSON form of a program shows the program

No two sorts of nodes have the same keys, so the keys of an object tell what it stands
for, and the values then tell the parts.  Neither depends on the order of the fields: the
argument is made once for all arrangements from which keys and values can be told, the
order of declaration and the sorted order among them.  Together with the legibility of
JSON text, whatever characters literals are made of, a program is known from either form.
-/

namespace Calculator

open Json (Faithful SameKeys)

theorem Operator.text_injective {first second : Operator} (htext : first.text = second.text) :
    first = second := by
  have hcharacters := congrArg String.toList htext
  rw [text, text, String.toList_singleton, String.toList_singleton] at hcharacters
  exact symbol_injective (List.cons.inj hcharacters).1

variable {arrange : Json → Json}

/-- The values of an object that says its type, the type itself not counted. -/
theorem Json.Faithful.values_of_tagged (harrange : Faithful arrange) {kind : NodeKind}
    {fields others : List (String × Json)}
    (hjson : arrange (.tagged kind fields) = arrange (.tagged kind others))
    (hkeys : SameKeys fields others) :
    fields.map (arrange ·.2) = others.map (arrange ·.2) :=
  (List.cons.inj (harrange.values hjson (.cons rfl hkeys))).2

theorem Json.Faithful.value_of_tagged (harrange : Faithful arrange) {kind : NodeKind}
    {key : String} {value other : Json}
    (hjson : arrange (.tagged kind [(key, value)]) = arrange (.tagged kind [(key, other)])) :
    arrange value = arrange other :=
  (List.cons.inj (harrange.values_of_tagged hjson (.cons rfl .nil))).1

theorem Operator.eq_of_json_eq (harrange : Faithful arrange) {first second : Operator}
    (hjson : arrange first.json = arrange second.json) : first = second :=
  text_injective (harrange.string_inj (harrange.value_of_tagged hjson))

mutual

theorem Operand.eq_of_json_eq (harrange : Faithful arrange) : ∀ {first second : Operand},
    arrange first.json = arrange second.json → first = second
  | .number _, .number _, hjson =>
      congrArg Operand.number (harrange.string_inj (harrange.value_of_tagged hjson))
  | .number _, .nested (.expression ..), hjson => absurd hjson (harrange.object_ne rfl)
  | .number _, .nested (.grouping _), hjson => absurd hjson (harrange.object_ne rfl)
  | .nested (.expression ..), .number _, hjson => absurd hjson (harrange.object_ne rfl)
  | .nested (.grouping _), .number _, hjson => absurd hjson (harrange.object_ne rfl)
  | .nested _, .nested _, hjson => congrArg Operand.nested (Statement.eq_of_json_eq harrange hjson)

/-- A statement is known from its JSON form, however the fields of objects are arranged. -/
theorem Statement.eq_of_json_eq (harrange : Faithful arrange) : ∀ {first second : Statement},
    arrange (.tagged first.kind first.fields) = arrange (.tagged second.kind second.fields) →
      first = second
  | .expression _ _ _, .expression _ _ _, hjson => by
      have hvalues := harrange.values_of_tagged hjson (.cons rfl (.cons rfl .nil))
      obtain ⟨hoperator, hoperands⟩ := List.cons.inj hvalues
      obtain ⟨hleft, hright⟩ := List.cons.inj (harrange.array_inj (List.cons.inj hoperands).1)
      rw [Operator.eq_of_json_eq harrange hoperator, Operand.eq_of_json_eq harrange hleft,
        Operand.eq_of_json_eq harrange (List.cons.inj hright).1]
  | .expression .., .grouping _, hjson => absurd hjson (harrange.object_ne rfl)
  | .grouping _, .expression .., hjson => absurd hjson (harrange.object_ne rfl)
  | .grouping _, .grouping _, hjson => by
      have hbody := harrange.array_inj (harrange.value_of_tagged hjson)
      exact congrArg Statement.grouping (Statement.eq_of_jsonEach_eq harrange hbody)

theorem Statement.eq_of_jsonEach_eq (harrange : Faithful arrange) :
    ∀ {first second : List Statement},
      (Statement.jsonEach first).map arrange = (Statement.jsonEach second).map arrange →
        first = second
  | [], [], _ => rfl
  | [], _ :: _, hjson => absurd hjson.symm (List.cons_ne_nil _ _)
  | _ :: _, [], hjson => absurd hjson (List.cons_ne_nil _ _)
  | _ :: _, _ :: _, hjson => by
      obtain ⟨hstatement, hothers⟩ := List.cons.inj hjson
      rw [Statement.eq_of_json_eq harrange hstatement,
        Statement.eq_of_jsonEach_eq harrange hothers]

end

theorem Program.eq_of_json_eq (harrange : Faithful arrange) {first second : Program}
    (hjson : arrange first.json = arrange second.json) : first = second := by
  have hbody := harrange.array_inj (harrange.value_of_tagged hjson)
  have hsame := Statement.eq_of_jsonEach_eq harrange hbody
  cases first
  cases second
  exact congrArg mk hsame

theorem Program.eq_of_write_eq {settings : Settings} (hjson : settings.json = true)
    {first second : Program}
    (hwritten : settings.write (.tree first) = settings.write (.tree second)) : first = second := by
  rw [Settings.write, Settings.write, if_pos hjson, if_pos hjson] at hwritten
  have hsorted := Json.render_injective hwritten
  have hvalues := Json.faithful_sorted.values hsorted (.cons rfl .nil)
  exact Program.eq_of_json_eq Json.faithful_sorted (List.cons.inj hvalues).1

/-- A program is known from its JSON text, in the order in which the fields are declared
and in the sorted order of the dumps, whatever characters its literals are made of. -/
theorem json_determines_program (first second : Program) :
    (first.json.render = second.json.render ↔ first = second) ∧
      ∀ settings : Settings, settings.json = true →
        (settings.write (.tree first) = settings.write (.tree second) ↔ first = second) := by
  refine ⟨⟨?_, ?_⟩, ?_⟩
  · intro hrendered
    exact Program.eq_of_json_eq Json.faithful_id (Json.render_injective hrendered)
  · rintro rfl
    rfl
  · intro settings hjson
    refine ⟨Program.eq_of_write_eq hjson, ?_⟩
    rintro rfl
    rfl

/-- A literal that holds a control character is dumped as `\u0001`, and one that holds
these six characters in another way. -/
theorem json_determines_program_of_control_character :
    let settings : Settings := { json := true }
    let program : Program := ⟨[.expression .add (.number "\"\x01") (.nested (.grouping []))]⟩
    let spelled : Program := ⟨[.expression .add (.number "\"\\u0001") (.nested (.grouping []))]⟩
    settings.json = true ∧
      settings.write (.tree program) =
        "\x7b\"ast\":\x7b\"body\":[\x7b\"operands\":[\x7b\"type\":\"NumberLiteral\"," ++
          "\"value\":\"\\\"\\u0001\"\x7d,\x7b\"body\":[],\"type\":\"GroupingStatement\"\x7d]," ++
          "\"operator\":\x7b\"type\":\"OperandLiteral\",\"value\":\"+\"\x7d," ++
          "\"type\":\"ExpressionStatement\"\x7d],\"type\":\"Program\"\x7d\x7d" ∧
      settings.write (.tree spelled) ≠ settings.write (.tree program) := by
  intro settings program spelled
  refine ⟨rfl, by decide +kernel, ?_⟩
  intro hwritten
  have hsame := ((json_determines_program spelled program).2 settings rfl).1 hwritten
  have hbody : spelled.body = program.body := congrArg Program.body hsame
  simp [spelled, program] at hbody

end Calculator
