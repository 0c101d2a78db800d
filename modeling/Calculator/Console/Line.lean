/-!
# Lines of input

Input arrives as bytes.  A line feed ends a line, and so does the end of the
input unless nothing stands before it.  A carriage return just before the line
feed belongs to the line break; at the end of the input it does not.  A line is
read as text, which fails if its bytes are not UTF-8.
-/

namespace Calculator.Line

def lineFeed : UInt8 := 0x0A

def carriageReturn : UInt8 := 0x0D

/-- The bytes of each line, and whether a line feed ended it. -/
def split : List UInt8 → List (List UInt8 × Bool)
  | [] => []
  | byte :: bytes =>
      if byte = lineFeed then ([], true) :: split bytes
      else
        match split bytes with
        | [] => [([byte], false)]
        | (line, ended) :: lines => (byte :: line, ended) :: lines

/-- The bytes of a line without a carriage return that belongs to its end. -/
def content (line : List UInt8) (ended : Bool) : List UInt8 :=
  if ended && line.getLast? = some carriageReturn then line.dropLast else line

/-- The text of a line; `none` if its bytes are no text. -/
def decode (line : List UInt8) (ended : Bool) : Option String :=
  String.fromUTF8? ⟨(content line ended).toArray⟩

/-- The lines of the input in order. -/
def ofBytes (input : ByteArray) : List (Option String) :=
  (split input.toList).map fun (line, ended) => decode line ended

end Calculator.Line
