/-!
# JSON text

The part of JSON the calculator writes: counts, strings, arrays and objects.
An object keeps its fields in the order in which they were given, and sorting
them by key is an operation of its own, so the two orders in use are two ways
of writing one value.  Text is compact: no blanks between tokens.
-/

namespace Calculator

inductive Json where
  | count (value : Nat)
  | string (text : String)
  | array (items : List Json)
  | object (fields : List (String × Json))
deriving Repr, Inhabited

namespace Json

def hexDigit (value : Nat) : Char :=
  if value < 10 then Char.ofNat (48 + value) else Char.ofNat (87 + value)

/-- Quotes, backslashes and the control characters below the space are escaped,
the last by a short name where there is one; all else stands for itself. -/
def escape (character : Char) : List Char :=
  match character with
  | '"' => ['\\', '"']
  | '\\' => ['\\', '\\']
  | '\x08' => ['\\', 'b']
  | '\x0c' => ['\\', 'f']
  | '\n' => ['\\', 'n']
  | '\r' => ['\\', 'r']
  | '\t' => ['\\', 't']
  | _ =>
      if character.toNat < 0x20 then
        ['\\', 'u', '0', '0', hexDigit (character.toNat / 16), hexDigit (character.toNat % 16)]
      else [character]

/-- A quoted text in front of what follows it. -/
def quoteBefore (text : String) (rest : List Char) : List Char :=
  '"' :: (text.toList.flatMap escape ++ '"' :: rest)

mutual

/-- The text of a value in front of what follows it. -/
def writeBefore : Json → List Char → List Char
  | count value, rest => (toString value).toList ++ rest
  | string text, rest => quoteBefore text rest
  | array items, rest => '[' :: writeItemsBefore items (']' :: rest)
  | object fields, rest => '\x7b' :: writeFieldsBefore fields ('\x7d' :: rest)

/-- The items of an array with a comma between each two. -/
def writeItemsBefore : List Json → List Char → List Char
  | [], rest => rest
  | [item], rest => item.writeBefore rest
  | item :: next :: items, rest =>
      item.writeBefore (',' :: writeItemsBefore (next :: items) rest)

def writeFieldsBefore : List (String × Json) → List Char → List Char
  | [], rest => rest
  | [(key, value)], rest => quoteBefore key (':' :: value.writeBefore rest)
  | (key, value) :: next :: fields, rest =>
      quoteBefore key (':' :: value.writeBefore (',' :: writeFieldsBefore (next :: fields) rest))

end

def render (json : Json) : String :=
  String.ofList (json.writeBefore [])

/-- Inserts a field in front of the first one with a greater key. -/
def insertField (key : String) (value : Json) : List (String × Json) → List (String × Json)
  | [] => [(key, value)]
  | (otherKey, otherValue) :: fields =>
      if key < otherKey then (key, value) :: (otherKey, otherValue) :: fields
      else (otherKey, otherValue) :: insertField key value fields

mutual

/-- The same value with the fields of every object in ascending order of key. -/
def sorted : Json → Json
  | count value => count value
  | string text => string text
  | array items => array (sortedItems items)
  | object fields => object (sortedFields fields)

def sortedItems : List Json → List Json
  | [] => []
  | item :: items => item.sorted :: sortedItems items

def sortedFields : List (String × Json) → List (String × Json)
  | [] => []
  | (key, value) :: fields => insertField key value.sorted (sortedFields fields)

end

end Json

end Calculator
