import SuperChip.Text.Hex
import SuperChip.Text.Printable

/-!
# Quoted values

How values are shown inside a report: texts in quotes with what cannot be shown written out,
and tuples of values in parentheses.

- `Text.quoted`: a text in quotes.
- `Value`: what a report can be about; `Value.plain` and `Value.quoted` show it.
- `Value.tuple`: several values together.
-/

namespace SuperChip

namespace Text

/-- The quote to put around a text: a single one, unless the text has one and no double one. -/
def quoteFor (cs : List Char) : Char :=
  if cs.contains '\'' && !cs.contains '"' then '"' else '\''

/-- A character as it stands between quotes. -/
def quotedChar (quote c : Char) : List Char :=
  if c = quote ∨ c = '\\' then ['\\', c]
  else if c = '\t' then ['\\', 't']
  else if c = '\n' then ['\\', 'n']
  else if c = '\r' then ['\\', 'r']
  else if isPrintable c then [c]
  else
    let digits := hexDigits c.toNat
    if c.toNat < 0x100 then '\\' :: 'x' :: digits.leftpad 2 '0'
    else if c.toNat < 0x10000 then '\\' :: 'u' :: digits.leftpad 4 '0'
    else '\\' :: 'U' :: digits.leftpad 8 '0'

/-- A text in quotes. -/
def quoted (text : String) : String :=
  let cs := text.toList
  let quote := quoteFor cs
  String.ofList (quote :: cs.flatMap (quotedChar quote) ++ [quote])

end Text

/-- A value that a report is about. -/
inductive Value where
  | integer (n : Int)
  | text (s : String)
  | truth (b : Bool)
  | absent
deriving DecidableEq, Repr

namespace Value

/-- A value as it stands in running text. -/
def plain : Value → String
  | integer n => toString n
  | text s => s
  | truth b => if b then "True" else "False"
  | absent => "None"

/-- A value as it stands among others: a text is put in quotes. -/
def quoted : Value → String
  | text s => Text.quoted s
  | v => v.plain

/-- The integer that a value counts as, if it does. -/
def integer? : Value → Option Int
  | integer n => some n
  | truth b => some (if b then 1 else 0)
  | text _ | absent => none

/-- Several values together. A single one has a comma behind it. -/
def tuple : List Value → String
  | [v] => "(" ++ v.quoted ++ ",)"
  | vs => "(" ++ ", ".intercalate (vs.map quoted) ++ ")"

end Value

end SuperChip
