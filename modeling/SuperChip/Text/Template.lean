import SuperChip.Extent
import SuperChip.Text.Hex
import SuperChip.Text.Quoted

/-!
# Templates

A template is a text with places for values. A place is a percent sign, flags, a width, a
precision behind a point, a size that does not count, and a letter: `%d` for a decimal integer,
`%o`, `%x` and `%X` for an integer in another base, `%s` for any value and `%r` for a quoted one.
Two percent signs stand for one.

- `Template.Place`: a place for a value.
- `Template.parts`: the parts of a template.
- `Template.put`: the text with the values in their places, if each value has a place, each
  place has a value, they go together and there is room for them.
- `Template.fill`: the text, or the template and the values side by side.
-/

namespace SuperChip.Template

open Text

/-- What is put into a place. -/
inductive Kind where
  | decimal
  | octal
  | hexLower
  | hexUpper
  | any
  | quoted
deriving DecidableEq, Repr

/-- A place for a value. -/
structure Place where
  /-- The flags in the order in which they were given. -/
  flags : List Char
  /-- The least number of characters. -/
  width : Nat
  /-- The least number of digits of an integer, or the greatest number of characters of a
  text. -/
  precision : Option Nat
  kind : Kind
deriving DecidableEq, Repr

/-- A part of a template. -/
inductive Part where
  | literal (c : Char)
  | place (p : Place)
  /-- A place that is not described properly. -/
  | malformed
deriving DecidableEq, Repr

/-! ## Reading a template -/

/-- The kind that a letter stands for. -/
def kind? : Char → Option Kind
  | 'd' | 'i' | 'u' => some .decimal
  | 'o' => some .octal
  | 'x' => some .hexLower
  | 'X' => some .hexUpper
  | 's' => some .any
  | 'r' => some .quoted
  | _ => none

/-- Flags: fill behind the value, show a sign, leave a blank for a sign, mark the base, fill
with zeros. -/
def isFlag (c : Char) : Bool := c ∈ ['-', '+', ' ', '#', '0']

/-- Sizes, which do not count. -/
def isSize (c : Char) : Bool := c ∈ ['h', 'l', 'L']

/-- Whether a character can stand between a percent sign and the letter of a place. -/
def isModifier (c : Char) : Bool := isFlag c || isSize c || c.isDigit || c == '.'

/-- A number in front, zero if there is none, and what follows it. -/
def takeNumber (cs : List Char) : Nat × List Char :=
  ((cs.takeWhile Char.isDigit).foldl (fun n c => n * 10 + (c.toNat - 48)) 0,
    cs.dropWhile Char.isDigit)

/-- A precision in front, if there is one, and what follows it. -/
def takePrecision : List Char → Option Nat × List Char
  | '.' :: cs => let (n, rest) := takeNumber cs; (some n, rest)
  | cs => (none, cs)

/-- What follows one size in front. -/
def dropSize : List Char → List Char
  | c :: cs => if isSize c then cs else c :: cs
  | [] => []

/-- The greatest precision that can be described. -/
def maxPrecision : Nat := 0x7FFFFFFF

/-- The part that the characters behind a percent sign describe. -/
def part (description : List Char) : Part :=
  if description = ['%'] then .literal '%'
  else
    let (width, sized) := takeNumber (description.dropWhile isFlag)
    let (precision, rest) := takePrecision sized
    match dropSize rest with
    | [letter] =>
      match kind? letter with
      | some kind =>
        if Extent.isIndex width && precision.all (· ≤ maxPrecision) then
          .place ⟨description.takeWhile isFlag, width, precision, kind⟩
        else .malformed
      | none => .malformed
    | _ => .malformed

/-- The parts of a template. Inside a place, `pending` holds the characters since the percent
sign, the last one first. -/
def partsBehind (pending : Option (List Char)) : List Char → List Part
  | [] => if pending.isSome then [.malformed] else []
  | c :: rest =>
    match pending with
    | none =>
      if c = '%' then partsBehind (some []) rest else .literal c :: partsBehind none rest
    | some described =>
      if isModifier c then partsBehind (some (c :: described)) rest
      else part (c :: described).reverse :: partsBehind none rest

/-- The parts of a template. -/
def parts (template : String) : List Part := partsBehind none template.toList

/-! ## Filling a template -/

/-- Whether a place has a flag. -/
def Place.has (p : Place) (flag : Char) : Bool := p.flags.contains flag

/-- A text with blanks up to the width of a place. -/
def Place.pad (p : Place) (s : String) : String :=
  let blanks := String.ofList (List.replicate (p.width - s.length) ' ')
  if p.has '-' then s ++ blanks else blanks ++ s

/-- What stands in front of a number: its sign, or what the flags ask for in its place. -/
def Place.lead (p : Place) (n : Int) : List Char :=
  if n < 0 then ['-'] else if p.has '+' then ['+'] else if p.has ' ' then [' '] else []

/-- An integer in a place: digits in a base, which `mark` stands for. -/
def Place.number (p : Place) (mark digits : List Char) (n : Int) : String :=
  let lead := p.lead n ++ if p.has '#' then mark else []
  let width := if p.has '0' && !p.has '-' then p.width else 0
  p.pad (zeroFilled width lead (digits.leftpad (p.precision.getD 0) '0'))

/-- A text in a place. -/
def Place.text (p : Place) (s : String) : String :=
  p.pad (match p.precision with
    | some n => String.ofList (s.toList.take n)
    | none => s)

/-- Why a template and values make no text. -/
inductive Failure where
  /-- They do not go together. -/
  | mismatch
  /-- There is no room for a value as it is to be shown. -/
  | oversize (cause : Oversize)
deriving DecidableEq, Repr

/-- Refuses a place that is to have more digits or more characters than there is room for. -/
def Place.checkRoom (room : Room) (p : Place) (isNumber : Bool) : Except Failure Unit :=
  if isNumber && p.precision.any (maxPrecision - 3 < ·) then .error (.oversize .precision)
  else (Extent.check room p.width 1).mapError .oversize

/-- A value in a place, if it goes there. -/
def Place.put (room : Room) (p : Place) (v : Value) : Except Failure String :=
  let number (mark : List Char) (digits : Nat → List Char) : Except Failure String :=
    match v.integer? with
    | none => .error .mismatch
    | some n => (p.checkRoom room true).map fun _ => p.number mark (digits n.natAbs) n
  match p.kind with
  | .any => (p.checkRoom room false).map fun _ => p.text v.plain
  | .quoted => (p.checkRoom room false).map fun _ => p.text v.quoted
  | .decimal => number [] (Nat.toDigits 10)
  | .octal => number ['0', 'o'] (Nat.toDigits 8)
  | .hexLower => number ['0', 'x'] hexDigits
  | .hexUpper => number ['0', 'X'] hexDigitsUpper

/-- The text of parts with the values in their places. -/
def put (room : Room) : List Part → List Value → Except Failure String
  | [], [] => .ok ""
  | [], _ :: _ => .error .mismatch
  | .literal c :: rest, vs => (put room rest vs).map (c.toString ++ ·)
  | .malformed :: _, _ => .error .mismatch
  | .place _ :: _, [] => .error .mismatch
  | .place p :: rest, v :: vs => do
    let s ← p.put room v
    let t ← put room rest vs
    .ok (s ++ t)

/-- The text of a template with values. A template for which there are no values is left as it
is. One that the values do not fit is followed by them. -/
def fill (room : Room) (template : String) (values : List Value) : Except Oversize String :=
  if values.isEmpty then .ok template
  else match put room (parts template) values with
    | .ok text => .ok text
    | .error .mismatch => .ok (template ++ " " ++ Value.tuple values)
    | .error (.oversize cause) => .error cause

end SuperChip.Template
