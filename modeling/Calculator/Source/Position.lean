/-!
# Positions in source text

An offset counts characters from the start of the text.  A position says the
same in the form people read: the line and the column, both counted from one.
Only a line feed ends a line.
-/

namespace Calculator

structure Position where
  line : Nat
  column : Nat
  offset : Nat
deriving DecidableEq, Repr, Inhabited

namespace Position

/-- Line and column after one more character has been passed. -/
def pass (place : Nat × Nat) (character : Char) : Nat × Nat :=
  if character = '\n' then (place.1 + 1, 1) else (place.1, place.2 + 1)

/-- The position of an offset.  An offset past the end has the line and column
of the end, but is kept as it was asked for. -/
def ofOffset (source : String) (offset : Nat) : Position :=
  let place := (source.toList.take offset).foldl pass (1, 1)
  ⟨place.1, place.2, offset⟩

def text (position : Position) : String :=
  "line " ++ toString position.line ++ ", column " ++ toString position.column

end Position

end Calculator
