/-!
# Lines

- `Text.isLineEnd`: the characters that end a line.
- `Text.lines`: the lines of a text.
-/

namespace SuperChip.Text

/-- Whether a character ends a line: the feeds and the carriage return, the separators of files,
groups and records, the next line, and the separators of lines and paragraphs. -/
def isLineEnd (c : Char) : Bool :=
  let code := c.toNat
  (0x0A ≤ code && code ≤ 0x0D) || (0x1C ≤ code && code ≤ 0x1E) || code == 0x85 ||
  code == 0x2028 || code == 0x2029

/-- The lines of characters behind the beginning of a line, whose last character comes first. A
carriage return and a line feed behind it end a line together. -/
def linesBehind (line : List Char) : List Char → List (List Char)
  | [] => if line.isEmpty then [] else [line.reverse]
  | '\r' :: '\n' :: rest => line.reverse :: linesBehind [] rest
  | c :: rest =>
    if isLineEnd c then line.reverse :: linesBehind [] rest else linesBehind (c :: line) rest

/-- The lines of a text. A last line need not be ended. -/
def lines (text : String) : List String := (linesBehind [] text.toList).map String.ofList

end SuperChip.Text
