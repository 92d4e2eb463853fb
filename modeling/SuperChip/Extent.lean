/-!
# Extents

Rows of things have ends: the places in a row are counted by signed words of 64 bits, and the
room for a row is limited. How much room there is depends on where a program runs, so that it is a
parameter of everything that takes some.

- `Oversize`: why there is no room for what was asked for.
- `Extent.isIndex`: whether an integer can count places at all.
- `Room`: the room for a row; `Room.all` is as much as there can be.
- `Extent.check`: refuses a row that is too long; `Extent.check_eq_ok_iff` says which ones are not.
- `Misplaced`: why an integer names no place in a row.
- `toNat_ofInt_byte`: what a byte keeps of an integer.
-/

namespace SuperChip

/-- Why there is no room for what was asked for. -/
inductive Oversize where
  /-- A row has more places than can be counted. -/
  | uncountable
  /-- A row needs more room than there is. -/
  | noRoom
  /-- A number has more binary digits than can be counted. -/
  | digits
  /-- More digits of a number are asked for than can be written. -/
  | precision
deriving DecidableEq, Repr

/-- The wording of a lack of room. When there is none at all, nothing is said. -/
def Oversize.message : Oversize → String
  | uncountable => "cannot fit 'int' into an index-sized integer"
  | noRoom => ""
  | digits => "too many digits in integer"
  | precision => "precision too large"

/-- Why an integer names no place in a row. -/
inductive Misplaced where
  /-- It lies outside the row. -/
  | outside
  /-- It cannot count places at all. -/
  | uncountable
deriving DecidableEq, Repr

/-- The wording of a place that does not exist in a kind of row. -/
def Misplaced.message (row : String) : Misplaced → String
  | outside => row ++ " index out of range"
  | uncountable => Oversize.uncountable.message

namespace Extent

/-- The greatest number of places in a row. -/
def maxIndex : Int := 0x7FFFFFFFFFFFFFFF

/-- Whether an integer can count places, from either end of a row. -/
def isIndex (n : Int) : Bool := -maxIndex - 1 ≤ n && n ≤ maxIndex

end Extent

/-- The room for a row: enough for each of the rows that a machine is made of, and never more bytes
than can be counted. -/
structure Room where
  bytes : Int
  least : 0x10000 ≤ bytes
  most : bytes ≤ Extent.maxIndex
deriving DecidableEq, Repr

/-- As much room as there can be. -/
def Room.all : Room := ⟨Extent.maxIndex, by decide, by decide⟩

namespace Extent

/-- Refuses a row of `length` entries that take `bytes` bytes each, if it is too long. -/
def check (room : Room) (length bytes : Int) : Except Oversize Unit :=
  if maxIndex < length then .error .uncountable
  else if room.bytes < length * bytes then .error .noRoom
  else .ok ()

/-- There is never room for more places than can be counted, so that room is all that matters. -/
theorem check_eq_ok_iff {room : Room} {length bytes : Int} (hbytes : 0 < bytes) :
    check room length bytes = .ok () ↔ length * bytes ≤ room.bytes := by
  have hcount : length * bytes ≤ room.bytes → length ≤ maxIndex := by
    intro hroom
    by_cases hlength : 0 ≤ length
    · calc length = length * 1 := (Int.mul_one length).symm
        _ ≤ length * bytes := Int.mul_le_mul_of_nonneg_left hbytes hlength
        _ ≤ room.bytes := hroom
        _ ≤ maxIndex := room.most
    · have hmax : 0 ≤ maxIndex := by decide
      omega
  unfold check
  by_cases hroom : length * bytes ≤ room.bytes
  · simp only [if_neg (Int.not_lt.2 (hcount hroom)), if_neg (Int.not_lt.2 hroom), hroom]
  · rw [if_pos (Int.not_le.1 hroom)]
    split <;> simp [hroom]

/-- A row for which there is no room is refused for one of two reasons. -/
theorem check_of_lt {room : Room} {length bytes : Int} (h : room.bytes < length * bytes) :
    check room length bytes = .error (if maxIndex < length then .uncountable else .noRoom) := by
  rw [check, if_pos h]
  split <;> rfl

/-- The bytes that a reference to a thing takes. -/
def reference : Int := 8

/-- Why an integer that lies outside a row names no place in it. -/
def misplaced (n : Int) : Misplaced := if isIndex n then .outside else .uncountable

end Extent

/-- A byte keeps an integer modulo 256. -/
theorem toNat_ofInt_byte (n : Int) : ((UInt8.ofInt n).toNat : Int) = n % 256 := by
  rw [UInt8.ofInt, UInt8.toNat_ofNat']
  omega

end SuperChip
