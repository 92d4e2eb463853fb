import SuperChip.Text.Hex

/-!
# Faults

A fault is a cause for which an instruction cannot be completed or a program cannot be
loaded; a machine that meets one halts.

- `Fault`: the causes, each with what is needed to describe it.
- `Fault.name`, `Fault.message`: the two halves of the text of a fault.
- `Stop`: everything that can keep an instruction from completing. Besides faults these are
  the accesses to call stack slots that do not exist, which only a host can bring about, by
  moving the stack pointer out of its range.
-/

namespace SuperChip

open Text

/-- The number of bytes a program can have: the memory from `0x200` to its end. -/
def programCapacity : Nat := 0xE00

/-- The causes that halt a machine. -/
inductive Fault where
  /-- No instruction is written with this word. -/
  | undefinedWord (word : UInt16)
  /-- A transfer between `V0..Vx` and the flag registers names an `x` above 7. -/
  | flagTransfer (word : UInt16)
  /-- A call at `pc` while all frames are in use. -/
  | stackFull (pc : Int)
  /-- A return at `pc` without a frame to return to. -/
  | stackEmpty (pc : Int)
  /-- An access to `length` cells from `address` on leaves the memory. -/
  | outOfBounds (address length : Int)
  /-- A program of `size` bytes does not fit. -/
  | programTooLarge (size : Nat)
deriving DecidableEq, Repr

namespace Fault

/-- The kind of a fault, as it is shown in reasons and notes. -/
def name : Fault → String
  | undefinedWord _ | flagTransfer _ => "DecodeError"
  | stackFull _ => "StackOverflowError"
  | stackEmpty _ => "StackUnderflowError"
  | outOfBounds .. => "MemoryBoundsError"
  | programTooLarge _ => "RomTooLargeError"

/-- The last address that an access touches; an empty one counts as one cell. -/
def lastAddress (address length : Int) : Int := address + max length 1 - 1

/-- The particulars of a fault. -/
def message : Fault → String
  | undefinedWord word => "undefined instruction " ++ hexMarked 6 word.toNat
  | flagTransfer word => "flag register transfer beyond V7 " ++ hexMarked 6 word.toNat
  | stackFull pc => "call stack full (16 frames) at pc=" ++ hexMarked 5 pc
  | stackEmpty pc => "return with empty call stack at pc=" ++ hexMarked 5 pc
  | outOfBounds address length =>
    "access " ++ hexMarked 5 address ++ "-" ++ hexMarked 5 (lastAddress address length) ++
      " outside memory 0x000-0xfff"
  | programTooLarge size =>
    s!"program of {size} bytes exceeds the {programCapacity} byte program region"

/-- A fault as one line: its kind and its particulars. -/
def describe (f : Fault) : String := f.name ++ ": " ++ f.message

end Fault

/-- What keeps an instruction from completing. -/
inductive Stop where
  /-- A fault of the program. -/
  | fault (fault : Fault)
  /-- The frame to take from the call stack lies in a slot that does not exist. -/
  | missingSlot
  /-- The slot to put a frame into does not exist. -/
  | missingSlotForWrite
  /-- The stack pointer cannot count slots at all. -/
  | uncountableSlot
deriving DecidableEq, Repr

end SuperChip
