import Calculator.Text.Blank

/-!
# Excerpts

An excerpt shows where in the source something went wrong.  Its first line is
the source around the place, ten characters to either side, on one line; its
second line puts carets under the characters meant.
-/

namespace Calculator

namespace Excerpt

/-- How many characters are shown on either side. -/
def radius : Nat := 10

/-- Line breaks and tabs would break the alignment of the carets. -/
def flatten (character : Char) : Char :=
  if character = '\n' || character = '\r' || character = '\t' then ' ' else character

/-- The flattened source from `radius` characters before `offset` to `radius`
characters after `offset + length`, as far as there is source. -/
def window (source : List Char) (offset length : Nat) : List Char :=
  let first := offset - radius
  ((source.drop first).take (offset + length + radius - first)).map flatten

/-- Carets under `length` characters, one at least. -/
def marker (offset length : Nat) : List Char :=
  List.replicate (min offset radius) ' ' ++ List.replicate (max length 1) '^'

end Excerpt

/-- An offset past the end of the source stands for the end. -/
def excerpt (source : String) (offset length : Nat) : String :=
  let characters := source.toList
  let place := min offset characters.length
  String.ofList (Text.trimEnd (Excerpt.window characters place length) ++ '\n' ::
    Excerpt.marker place length)

end Calculator
