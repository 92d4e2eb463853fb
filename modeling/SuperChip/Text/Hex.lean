/-!
# Hexadecimal text

Numbers are shown in base sixteen, filled with zeros up to a width that counts the sign and
the `0x` marker too.

- `Text.hexDigits n`: the digits of a natural number, lower case, no leading zeros.
- `Text.hexLower`, `Text.hexUpper`: a signed number in plain digits.
- `Text.hexMarked`: a signed number behind `0x`.
-/

namespace SuperChip.Text

/-- The digits of `n` in base sixteen, lower case, without leading zeros. -/
def hexDigits (n : Nat) : List Char := Nat.toDigits 16 n

/-- The digits of `n` in base sixteen, upper case, without leading zeros. -/
def hexDigitsUpper (n : Nat) : List Char := (hexDigits n).map Char.toUpper

/-- The sign that is written in front of `n`: nothing when it is not negative. -/
def sign (n : Int) : List Char := if n < 0 then ['-'] else []

/-- `digits` behind `lead`, with zeros between them up to `width` characters in all. -/
def zeroFilled (width : Nat) (lead digits : List Char) : String :=
  String.ofList (lead ++ digits.leftpad (width - lead.length) '0')

/-- `n` in lower case, at least `width` characters with its sign. -/
def hexLower (width : Nat) (n : Int) : String :=
  zeroFilled width (sign n) (hexDigits n.natAbs)

/-- `n` in upper case, at least `width` characters with its sign. -/
def hexUpper (width : Nat) (n : Int) : String :=
  zeroFilled width (sign n) (hexDigitsUpper n.natAbs)

/-- `n` behind `0x`, at least `width` characters with its sign and the marker. -/
def hexMarked (width : Nat) (n : Int) : String :=
  zeroFilled width (sign n ++ ['0', 'x']) (hexDigits n.natAbs)

/-- A byte as two upper case digits. -/
def hexByte (b : UInt8) : String := hexUpper 2 b.toNat

@[simp] theorem sign_natCast (n : Nat) : sign (n : Int) = [] := by
  simp [sign, Int.not_lt.2 (Int.natCast_nonneg n)]

/-- Every number has a digit. -/
theorem hexDigits_ne_nil (n : Nat) : hexDigits n ≠ [] := Nat.toDigits_ne_nil

end SuperChip.Text
