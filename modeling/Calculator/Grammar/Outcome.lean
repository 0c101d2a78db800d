import Calculator.Grammar.Problem

/-!
# Outcomes of reading

Reading moves a cursor over a list of tokens.  It ends with a value and the
cursor behind what was read, or with a problem and the cursor where it was met.
A third outcome says that a production was cut off before it could end in either
way; it keeps the productions total and is shown never to arise.
-/

namespace Calculator

/-- The tokens still to be read, and how many expressions and groupings are
being read at the moment. -/
structure Cursor where
  rest : List Token
  nesting : Nat
deriving DecidableEq, Repr, Inhabited

/-- A value with its depth: a number has depth zero, and an expression or
grouping is one deeper than its deepest part. -/
structure Measured (α : Type) where
  value : α
  depth : Nat
deriving Repr, Inhabited

namespace Measured

def map {α β : Type} (transform : α → β) (measured : Measured α) : Measured β :=
  ⟨transform measured.value, measured.depth⟩

end Measured

inductive Outcome (α : Type) where
  | ok (value : α) (cursor : Cursor)
  | failed (problem : Problem) (cursor : Cursor)
  | exhausted
deriving Repr, Inhabited

namespace Outcome

variable {α β : Type}

def bind (outcome : Outcome α) (next : α → Cursor → Outcome β) : Outcome β :=
  match outcome with
  | ok value cursor => next value cursor
  | failed problem cursor => failed problem cursor
  | exhausted => exhausted

def map (transform : α → β) (outcome : Outcome α) : Outcome β :=
  outcome.bind fun value cursor => ok (transform value) cursor

@[simp]
theorem bind_ok (value : α) (cursor : Cursor) (next : α → Cursor → Outcome β) :
    (ok value cursor).bind next = next value cursor := rfl

@[simp]
theorem bind_failed (problem : Problem) (cursor : Cursor) (next : α → Cursor → Outcome β) :
    (failed problem cursor).bind next = failed problem cursor := rfl

@[simp]
theorem bind_exhausted (next : α → Cursor → Outcome β) :
    (exhausted : Outcome α).bind next = exhausted := rfl

/-- A sequence ends in a value exactly when both of its parts do. -/
theorem bind_eq_ok_iff {outcome : Outcome α} {next : α → Cursor → Outcome β}
    {value : β} {cursor : Cursor} :
    outcome.bind next = ok value cursor ↔
      ∃ first middle, outcome = ok first middle ∧ next first middle = ok value cursor := by
  cases outcome with
  | ok first middle =>
      constructor
      · exact fun hnext => ⟨first, middle, rfl, hnext⟩
      · rintro ⟨_, _, ⟨⟩, hnext⟩
        exact hnext
  | failed problem middle => simp
  | exhausted => simp

theorem map_eq_ok_iff {outcome : Outcome α} {transform : α → β} {value : β} {cursor : Cursor} :
    outcome.map transform = ok value cursor ↔
      ∃ first, outcome = ok first cursor ∧ transform first = value := by
  cases outcome with
  | ok first middle =>
      constructor
      · rintro ⟨⟩
        exact ⟨first, rfl, rfl⟩
      · rintro ⟨_, ⟨⟩, rfl⟩
        rfl
  | failed problem middle => simp [map]
  | exhausted => simp [map]

end Outcome

namespace Cursor

/-- The cursor in front of a token that it stands just behind. -/
def before (cursor : Cursor) (token : Token) : Cursor :=
  { cursor with rest := token :: cursor.rest }

/-- Starts reading an expression or grouping at a token. -/
def nest (limit : Nat) (token : Token) (cursor : Cursor) : Outcome Unit :=
  let inside := { cursor with nesting := cursor.nesting + 1 }
  if limit < inside.nesting then .failed (.tooDeep token) inside else .ok () inside

def unnest (cursor : Cursor) : Cursor :=
  { cursor with nesting := cursor.nesting - 1 }

end Cursor

/-- Ends with a value of a given depth, blaming `token` if that is too deep. -/
def Measured.within {α : Type} (limit : Nat) (token : Token) (measured : Measured α)
    (cursor : Cursor) : Outcome (Measured α) :=
  if limit < measured.depth then .failed (.tooDeep token) cursor else .ok measured cursor

end Calculator
