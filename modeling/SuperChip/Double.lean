/-!
# The integers next to a double

A finite double is a whole number of powers of two. The functions here read that number off its
bits, so that rounding is exact.

- `Double.isNan`, `Double.isInfinite`: the doubles that are no numbers.
- `Double.significand`, `Double.exponent`: a finite double as a whole number of powers of two.
- `Double.truncate`: the integer part of a double.
- `Double.round`: the nearest integer, the even one of two that are equally near.
-/

namespace SuperChip.Double

/-- The bits of the exponent. -/
def exponentBits (x : Float) : Nat := (x.toBits.toNat >>> 52) % 0x800

/-- The bits behind the binary point. -/
def fractionBits (x : Float) : Nat := x.toBits.toNat % (1 <<< 52)

/-- Whether a double stands for no number at all. -/
def isNan (x : Float) : Bool := exponentBits x == 2047 && fractionBits x != 0

/-- Whether a double is one of the two infinities. -/
def isInfinite (x : Float) : Bool := exponentBits x == 2047 && fractionBits x == 0

/-- Whether a double carries a minus sign. -/
def isNegative (x : Float) : Bool := (1 <<< 63) ≤ x.toBits.toNat

/-- The whole number of powers of two that a finite double is, without its sign. -/
def significand (x : Float) : Nat :=
  if exponentBits x = 0 then fractionBits x else (1 <<< 52) + fractionBits x

/-- The exponent of the power of two that a finite double is a whole number of. -/
def exponent (x : Float) : Int := max (exponentBits x) 1 - 1075

/-- The integer of a size with the sign of a double. -/
def withSign (x : Float) (n : Nat) : Int := if isNegative x then -(n : Int) else n

/-- The integer part of a finite double. -/
def truncate (x : Float) : Int :=
  withSign x <|
    if 0 ≤ exponent x then significand x <<< (exponent x).toNat
    else significand x >>> (-exponent x).toNat

/-- The quotient of two numbers, rounded to the nearest one and to the even one of two that are
equally near. -/
def roundedQuotient (n d : Nat) : Nat :=
  let q := n / d
  let r := n % d
  if 2 * r < d then q
  else if d < 2 * r then q + 1
  else if q % 2 = 0 then q else q + 1

/-- The integer nearest to a finite double, and the even one of two that are equally near. -/
def round (x : Float) : Int :=
  withSign x <|
    if 0 ≤ exponent x then significand x <<< (exponent x).toNat
    else roundedQuotient (significand x) (1 <<< (-exponent x).toNat)

end SuperChip.Double
