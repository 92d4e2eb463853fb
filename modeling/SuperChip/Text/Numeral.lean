import SuperChip.Text.Blank
import SuperChip.Text.Digit

/-!
# Numerals

How numbers are read from text. Blanks around a numeral do not count, digits of every script do,
and a single underscore may stand between two digits.

- `Text.digitValues?`: a run of digits.
- `Text.readInteger?`: a decimal integer with an optional sign and at most 4300 digits.
- `Text.readHex?`: an integer in base sixteen with an optional sign and marker, as in `-0x1F`.
- `Text.readReal?`: a decimal fraction with an optional sign and exponent, an infinity or the
  value that is not a number.
-/

namespace SuperChip.Text

/-- Whether a character is empty space around a numeral. The separators of files, groups,
records and units are not. -/
def isNumeralBlank (c : Char) : Bool := isBlank c && !(0x1C ≤ c.toNat && c.toNat ≤ 0x1F)

/-- The values of a run of digits, which is not empty. A single underscore may stand between
two digits. -/
def digitValues? (digit? : Char → Option Nat) : List Char → Option (List Nat)
  | [] => none
  | [c] => (digit? c).map fun d => [d]
  | c :: '_' :: rest => do
    let d ← digit? c
    let ds ← digitValues? digit? rest
    some (d :: ds)
  | c :: rest => do
    let d ← digit? c
    let ds ← digitValues? digit? rest
    some (d :: ds)

/-- The number that a run of digits stands for. -/
def ofDigits (base : Nat) (digits : List Nat) : Nat := digits.foldl (fun n d => n * base + d) 0

/-- A sign in front, if any, as whether it is a minus, and what follows it. -/
def takeSign : List Char → Bool × List Char
  | '-' :: rest => (true, rest)
  | '+' :: rest => (false, rest)
  | cs => (false, cs)

/-- An integer of a size and a sign. -/
def signed (negative : Bool) (n : Nat) : Int := if negative then -(n : Int) else n

/-- The greatest number of digits of a decimal integer. -/
def maxDigits : Nat := 4300

/-- Reads a decimal integer. -/
def readInteger? (text : String) : Option Int :=
  let (negative, body) := takeSign (trim isNumeralBlank text.toList)
  match digitValues? decimalDigit? body with
  | none => none
  | some ds => if maxDigits < ds.length then none else some (signed negative (ofDigits 10 ds))

/-- What follows the marker of base sixteen, if it is there, and an underscore behind it. The
marker is a zero of any script and then an `x` of ASCII. -/
def dropHexMarker : List Char → List Char
  | zero :: letter :: rest =>
    if decimalDigit? zero = some 0 ∧ (letter = 'x' ∨ letter = 'X') then
      match rest with
      | '_' :: digits => digits
      | digits => digits
    else zero :: letter :: rest
  | cs => cs

/-- Reads an integer in base sixteen. -/
def readHex? (text : String) : Option Int :=
  let (negative, body) := takeSign (trim isNumeralBlank text.toList)
  (digitValues? hexDigit? (dropHexMarker body)).map fun ds => signed negative (ofDigits 16 ds)

/-! ## Reals -/

/-- The double that is nearest to `m` times ten to the power `e`. Far outside the range of
doubles it is an infinity or zero. -/
def nearestDouble (m : Nat) (e : Int) : Float :=
  let magnitude := e + (Nat.toDigits 10 m).length
  if m = 0 ∨ magnitude < -400 then 0.0
  else if 400 < magnitude then 1.0 / 0.0
  else if e < 0 then Float.ofScientific m true e.natAbs
  else Float.ofScientific m false e.natAbs

/-- The digits before or behind a decimal point, of which one side may be missing. -/
def sideDigits? (cs : List Char) : Option (List Nat) :=
  if cs.isEmpty then some [] else digitValues? decimalDigit? cs

/-- The exponent of a numeral: what follows the letter, or zero if there is none. -/
def exponent? : List Char → Option Int
  | [] => some 0
  | _ :: cs =>
    let (negative, body) := takeSign cs
    (digitValues? decimalDigit? body).map fun ds => signed negative (ofDigits 10 ds)

/-- Reads a decimal fraction without a sign. -/
def readFraction? (cs : List Char) : Option Float := do
  let isMark (c : Char) := c == 'e' || c == 'E'
  let significand := cs.takeWhile (!isMark ·)
  let whole ← sideDigits? (significand.takeWhile (· != '.'))
  let part ← sideDigits? ((significand.dropWhile (· != '.')).drop 1)
  if whole.isEmpty && part.isEmpty then none
  else
    let e ← exponent? (cs.dropWhile (!isMark ·))
    some (nearestDouble (ofDigits 10 (whole ++ part)) (e - part.length))

/-- Reads a real number. -/
def readReal? (text : String) : Option Float :=
  let (negative, body) := takeSign (trim isNumeralBlank text.toList)
  let size? :=
    match String.ofList (body.map Char.toLower) with
    | "inf" | "infinity" => some (1.0 / 0.0)
    | "nan" => some (0.0 / 0.0)
    | _ => readFraction? body
  size?.map fun x => if negative then -x else x

end SuperChip.Text
