/-!
# Blank characters

Trimming and cutting into words go by the Unicode property `White_Space`.  It
is wider than the four separators of the tokenizer: it holds the no-break space
and the ideographic space, and it does not hold the zero-width space or the
separators U+001C to U+001F.
-/

namespace Calculator.Text

/-- The ranges of `White_Space`, first and last code point, in ascending order. -/
def blankRanges : List (Nat × Nat) :=
  [(0x0009, 0x000D), (0x0020, 0x0020), (0x0085, 0x0085), (0x00A0, 0x00A0), (0x1680, 0x1680),
    (0x2000, 0x200A), (0x2028, 0x2029), (0x202F, 0x202F), (0x205F, 0x205F), (0x3000, 0x3000)]

def isBlank (character : Char) : Bool :=
  blankRanges.any fun range => range.1 ≤ character.toNat && character.toNat ≤ range.2

def trimStart (characters : List Char) : List Char :=
  characters.dropWhile isBlank

def trimEnd (characters : List Char) : List Char :=
  (characters.reverse.dropWhile isBlank).reverse

def trim (characters : List Char) : List Char :=
  trimEnd (trimStart characters)

/-- The first word and what follows it; the word is empty when none is left. -/
def cutWord (characters : List Char) : List Char × List Char :=
  let body := trimStart characters
  (body.takeWhile (!isBlank ·), body.dropWhile (!isBlank ·))

end Calculator.Text
