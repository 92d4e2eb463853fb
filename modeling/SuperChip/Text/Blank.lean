/-!
# Blanks

- `Text.isBlank`: the characters that count as empty space, by the separators and the
  bidirectional white space of Unicode.
- `Text.strip`: a text without the blanks at its ends.
-/

namespace SuperChip.Text

/-- Whether a character is empty space. -/
def isBlank (c : Char) : Bool :=
  let code := c.toNat
  (0x09 ≤ code && code ≤ 0x0D) || (0x1C ≤ code && code ≤ 0x20) || code == 0x85 ||
  code == 0xA0 || code == 0x1680 || (0x2000 ≤ code && code ≤ 0x200A) || code == 0x2028 ||
  code == 0x2029 || code == 0x202F || code == 0x205F || code == 0x3000

/-- The characters of a list between the outermost ones that fail a test. -/
def trim (p : Char → Bool) (cs : List Char) : List Char :=
  ((cs.dropWhile p).reverse.dropWhile p).reverse

/-- A text without the blanks at its ends. -/
def strip (text : String) : String := String.ofList (trim isBlank text.toList)

end SuperChip.Text
