import SuperChip.Extent
import SuperChip.Fault
import SuperChip.Instruction

/-!
# Registers

- `Registers`: the byte registers, the index register, the program counter, the call stack
  and the flag registers.
- `Registers.slot?`: what a position names in a row of sixteen.
- `Registers.put`: an integer put into a byte register by a host.
- `Registers.push`, `Registers.pop`: the call stack. Programs keep the stack pointer between
  0 and 16; a host may set it, the program counter and the frames to any integer.
- `leading`, `withLeading`: the first bytes of a row of registers, read and replaced at once.

Models `RegisterFile`, with `push`, `pop` and `reset`.
-/

namespace SuperChip

/-- The register file of a processor. -/
structure Registers where
  /-- The byte registers `V0` to `VF`. -/
  v : Vector UInt8 16
  /-- The index register. -/
  i : Address
  /-- The program counter. -/
  pc : Int
  /-- The number of active frames. -/
  sp : Int
  /-- The frames, that is, the addresses to return to. -/
  stack : Vector Int 16
  /-- The flag registers. -/
  rpl : Vector UInt8 8
deriving DecidableEq, Repr

/-- The first `count` entries of a row of registers. -/
def leading {n : Nat} (row : Vector UInt8 n) (count : Nat) : List UInt8 := row.toList.take count

/-- A row of registers of which the first entries are replaced. -/
def withLeading {n : Nat} (row : Vector UInt8 n) (bytes : List UInt8) : Vector UInt8 n :=
  Vector.ofFn fun k => bytes.getD k.val row[k.val]

namespace Registers

/-- The registers when a program starts at `0x200`. -/
def initial : Registers where
  v := Vector.replicate 16 0
  i := 0
  pc := 0x200
  sp := 0
  stack := Vector.replicate 16 0
  rpl := Vector.replicate 8 0

/-- The number of frames that the call stack holds. -/
def stackDepth : Int := 16

/-- The register that instructions report a carry, a borrow or a collision in. -/
def flag : Register := Fin.last 15

theorem base_lt : 0 < 16 := by decide

/-- The register whose byte is added to the target of a jump with an offset. -/
def base : Register := ⟨0, base_lt⟩

/-- The byte in a register. -/
def get (r : Registers) (x : Register) : UInt8 := r.v[x.val]

/-- Puts a byte into a register. -/
def set (r : Registers) (x : Register) (b : UInt8) : Registers :=
  { r with v := r.v.set x.val b x.isLt }

/-- Puts an integer into the index register, which keeps its low twelve bits. -/
def setIndex (r : Registers) (value : Int) : Registers :=
  { r with i := BitVec.ofInt 12 value }

/-- Goes on by one word, or by two when the next word is skipped. -/
def advance (r : Registers) (skip : Bool) : Registers :=
  { r with pc := r.pc + if skip then 4 else 2 }

/-! ## Positions -/

/-- What a position names in a row of sixteen: a byte register, or a slot of the call stack.
Positions below zero count from the end of the row. -/
def slot? (position : Int) : Option (Fin 16) :=
  let k := if position < 0 then position + stackDepth else position
  if h : 0 ≤ k ∧ k < stackDepth then
    some ⟨k.toNat, by have : k < 16 := h.2; omega⟩
  else none

/-- Why an integer does not go into a byte register. -/
inductive Refusal where
  /-- There is no register at the position. -/
  | noRegister
  /-- The position cannot count registers at all. -/
  | uncountable
  /-- The integer is no byte. -/
  | notByte
deriving DecidableEq, Repr

/-- The wording of a refusal. -/
def Refusal.message : Refusal → String
  | noRegister => Misplaced.outside.message "bytearray"
  | uncountable => Misplaced.uncountable.message "bytearray"
  | notByte => "byte must be in range(0, 256)"

/-- Puts an integer into the byte register at a position. -/
def put (r : Registers) (position value : Int) : Except Refusal Registers :=
  if !Extent.isIndex position then .error .uncountable
  else if value < 0 ∨ 255 < value then .error .notByte
  else match slot? position with
    | none => .error .noRegister
    | some x => .ok (r.set x (UInt8.ofInt value))

/-! ## The call stack -/

/-- What an access to a stack position without a slot meets. -/
def withoutSlot (position : Int) (stop : Stop) : Stop :=
  if Extent.isIndex position then stop else .uncountableSlot

/-- Puts a frame on the call stack. -/
def push (r : Registers) (frame : Int) : Except Stop Registers :=
  if stackDepth ≤ r.sp then .error (.fault (.stackFull r.pc))
  else match slot? r.sp with
    | none => .error (withoutSlot r.sp .missingSlotForWrite)
    | some k => .ok { r with stack := r.stack.set k.val frame k.isLt, sp := r.sp + 1 }

/-- Takes a frame from the call stack. The stack pointer moves even when the slot that it
then names does not exist. -/
def pop (r : Registers) : Except Stop Int × Registers :=
  if r.sp = 0 then (.error (.fault (.stackEmpty r.pc)), r)
  else
    let popped := { r with sp := r.sp - 1 }
    match slot? popped.sp with
    | none => (.error (withoutSlot popped.sp .missingSlot), popped)
    | some k => (.ok r.stack[k.val], popped)

/-- The frames below the stack pointer. A pointer below zero leaves out as many frames at the
end. -/
def activeFrames (r : Registers) : List Int :=
  r.stack.toList.take (if r.sp < 0 then r.sp + stackDepth else r.sp).toNat

/-! ## Reading back what was put -/

/-- A register that is written is read back. -/
@[simp] theorem get_set_self (r : Registers) (x : Register) (b : UInt8) :
    (r.set x b).get x = b := by
  simp [get, set]

/-- The other registers stay as they are. -/
theorem get_set_of_ne (r : Registers) {x y : Register} (b : UInt8) (h : y ≠ x) :
    (r.set x b).get y = r.get y := by
  have hxy : x.val ≠ y.val := fun e => h (Fin.ext e.symm)
  simp [get, set, hxy]

/-- A number below sixteen names its own slot. -/
theorem slot?_of_lt {k : Nat} (h : k < 16) : slot? k = some ⟨k, h⟩ := by
  unfold slot? stackDepth
  have h₀ : ¬ ((k : Int) < 0) := by omega
  simp only [h₀, if_false]
  rw [dif_pos ⟨by omega, by omega⟩]
  simp

end Registers

end SuperChip
