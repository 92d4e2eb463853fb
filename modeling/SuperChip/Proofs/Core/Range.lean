import SuperChip.Core.Execute

/-!
# The ranges of a processor

Programs keep the registers of the processor in certain ranges, and the checks that instructions
make are stated here for these ranges only: what lies outside of them a host alone can bring about.

- `Core.InRange`: the stack pointer, the program counter and the screen are as programs keep them.
- `Registers.push_of_lt`, `push_of_full`, `pop_of_pos`, `pop_of_empty`: the call stack.
- `Ram.read_natCast`, `Ram.write_natCast`: accesses from an address on.
- `Core.fetch_of_le`, `Core.fetch_of_lt`: the word at the program counter; `Core.peek_start` is the
  first instruction of a program.
-/

namespace SuperChip

/-- Whether a screen has one of the two sizes that a machine can show. -/
def Screen.HasMode (s : Screen) : Prop :=
  s.width = 64 ∧ s.height = 32 ∨ s.width = 128 ∧ s.height = 64

/-- The ranges that programs keep the processor in. The index register, the sizes of the register
rows and the size of the memory are part of their types. -/
structure Core.InRange (c : Core) : Prop where
  pc_nonneg : 0 ≤ c.registers.pc
  sp_nonneg : 0 ≤ c.registers.sp
  sp_le : c.registers.sp ≤ 16
  screen : c.screen.HasMode

/-- A core is in range before the first instruction of a program. -/
theorem Core.inRange_start (program : List UInt8) (timers : Timers Float)
    (random : RandomSource) : (Core.start program timers random).InRange where
  pc_nonneg := show (0 : Int) ≤ 0x200 by decide
  sp_nonneg := show (0 : Int) ≤ 0 by decide
  sp_le := show (0 : Int) ≤ 16 by decide
  screen := .inl ⟨rfl, rfl⟩

/-! ## The call stack -/

namespace Registers

variable {r : Registers} {frame : Int}

/-- A stack pointer below sixteen names its own slot. -/
theorem slot?_eq {p : Int} (h₀ : 0 ≤ p) (h : p < 16) : slot? p = some ⟨p.toNat, by omega⟩ := by
  obtain ⟨k, rfl⟩ := Int.eq_ofNat_of_zero_le h₀
  exact slot?_of_lt (by omega)

/-- The frame in a slot of the call stack, in use or not. -/
def frameAt (r : Registers) (k : Nat) : Int := r.stack[k]?.getD 0

/-- A frame goes into the first free slot. -/
theorem push_of_lt (h₀ : 0 ≤ r.sp) (h : r.sp < 16) :
    r.push frame =
      .ok { r with stack := r.stack.setIfInBounds r.sp.toNat frame, sp := r.sp + 1 } := by
  have hfull : ¬ stackDepth ≤ r.sp := by simp only [stackDepth]; omega
  have hset : r.stack.set r.sp.toNat frame (by omega) = r.stack.setIfInBounds r.sp.toNat frame := by
    ext k hk
    rw [Vector.getElem_set, Vector.getElem_setIfInBounds]
  rw [push, if_neg hfull, slot?_eq h₀ h]
  simp only [hset]

/-- Nothing is pushed on a full stack. -/
theorem push_of_full (h : r.sp = 16) : r.push frame = .error (.fault (.stackFull r.pc)) := by
  have hfull : stackDepth ≤ r.sp := by simp only [stackDepth]; omega
  rw [push, if_pos hfull]

/-- The frame taken is the one in the last slot in use, which stays where it is. -/
theorem pop_of_pos (h₀ : 0 < r.sp) (h : r.sp ≤ 16) :
    r.pop = (.ok (r.frameAt (r.sp - 1).toNat), { r with sp := r.sp - 1 }) := by
  have hempty : ¬ r.sp = 0 := by omega
  have hlt : (r.sp - 1).toNat < 16 := by omega
  have hslot := slot?_eq (p := r.sp - 1) (by omega) (by omega)
  simp only [pop, if_neg hempty, hslot, frameAt, Vector.getElem?_eq_getElem hlt, Option.getD_some]

/-- Nothing is popped off an empty stack. -/
theorem pop_of_empty (h : r.sp = 0) : r.pop = (.error (.fault (.stackEmpty r.pc)), r) := by
  rw [pop, if_pos h]

end Registers

/-! ## Accesses to memory -/

namespace Ram

variable (m : Ram) (address length : Nat)

theorem inBounds_natCast :
    Memory.InBounds 0x1000 address length ↔ address + length ≤ 0x1000 := by
  simp only [Memory.InBounds]
  omega

/-- Reading succeeds as long as the cells exist. -/
theorem read_natCast :
    m.read address length =
      if address + length ≤ 0x1000 then .ok (m.slice address (address + length))
      else .error (.outOfBounds address length) := by
  simp only [Memory.read, inBounds_natCast]
  rfl

/-- Writing succeeds as long as the cells exist. -/
theorem write_natCast (bytes : List UInt8) :
    m.write address bytes =
      if address + bytes.length ≤ 0x1000 then .ok (m.place address bytes)
      else .error (.outOfBounds address bytes.length) := by
  simp only [Memory.write, inBounds_natCast]
  rfl

/-- The byte at an address; there are only zeros outside of the memory. -/
def byteAt (m : Ram) (address : Nat) : UInt8 := m.cells[address]?.getD 0

theorem getElem_slice (m : Ram) {start stop k : Nat} (hk : k < (m.slice start stop).length) :
    (m.slice start stop)[k] = m.byteAt (start + k) := by
  have hlt : start + k < 0x1000 := by
    rw [Memory.length_slice] at hk
    omega
  rw [byteAt, Vector.getElem?_eq_getElem hlt, Option.getD_some]
  simp only [Memory.slice, Array.getElem_toList, Array.getElem_extract, Vector.getElem_toArray]

/-- A write puts its bytes into the cells from its address on. -/
theorem byteAt_place_of_lt {bytes : List UInt8} {k : Nat} (hk : k < bytes.length)
    (h : address + k < 0x1000) : Ram.byteAt (m.place address bytes) (address + k) = bytes[k] := by
  have hcovered : address ≤ address + k ∧ address + k < address + bytes.length := by omega
  rw [byteAt, Vector.getElem?_eq_getElem h, Option.getD_some, Memory.getElem_place,
    dif_pos hcovered]
  simp only [Nat.add_sub_cancel_left]

/-- A program is in memory from its start on. -/
theorem byteAt_boot {program : List UInt8} {k : Nat} (hk : k < program.length)
    (hcap : Memory.programStart + k < 0x1000) :
    (boot program).byteAt (Memory.programStart + k) = program[k] :=
  byteAt_place_of_lt _ _ hk hcap

end Ram

namespace Core

variable {c : Core}

/-- The word at the program counter, whether it can be fetched or not. -/
def word (c : Core) : Word :=
  Memory.wordOf (c.memory.byteAt c.registers.pc.toNat) (c.memory.byteAt (c.registers.pc.toNat + 1))

/-- Up to the last word of the memory a word is fetched. -/
theorem fetch_of_le (h₀ : 0 ≤ c.registers.pc) (h : c.registers.pc ≤ 0xFFE) :
    c.fetch = .ok c.word := by
  have hb : Memory.InBounds 0x1000 c.registers.pc 2 := by
    simp only [Memory.InBounds]
    omega
  have hhigh : c.registers.pc.toNat < 0x1000 := by omega
  have hlow : c.registers.pc.toNat + 1 < 0x1000 := by omega
  rw [fetch, Memory.load16, dif_pos hb]
  simp [word, Ram.byteAt, hhigh, hlow, Vector.get]

/-- Behind it a fetch fails. -/
theorem fetch_of_lt (h : 0xFFE < c.registers.pc) :
    c.fetch = .error (.outOfBounds c.registers.pc 2) := by
  have hb : ¬ Memory.InBounds 0x1000 c.registers.pc 2 := by
    simp only [Memory.InBounds]
    omega
  rw [fetch, Memory.load16, dif_neg hb]

/-- The first instruction of a program. -/
theorem peek_start (high low : UInt8) (rest : List UInt8) (timers : Timers Float)
    (random : RandomSource) :
    (start (high :: low :: rest) timers random).peek =
      Decoded.ofWord (Memory.wordOf high low) := by
  have hpc : (start (high :: low :: rest) timers random).registers.pc = 0x200 := rfl
  have hmemory : (start (high :: low :: rest) timers random).memory =
      .boot (high :: low :: rest) := by rw [start]
  have hstart : (0x200 : Int).toNat = Memory.programStart := rfl
  have hhigh : (Ram.boot (high :: low :: rest)).byteAt (Memory.programStart + 0) = high :=
    Ram.byteAt_boot (by simp) (by decide)
  have hlow : (Ram.boot (high :: low :: rest)).byteAt (Memory.programStart + 1) = low :=
    Ram.byteAt_boot (by simp) (by decide)
  rw [peek, fetch_of_le (by rw [hpc]; decide) (by rw [hpc]; decide), word, hpc, hmemory, hstart]
  rw [Nat.add_zero] at hhigh
  rw [hhigh, hlow]

/-- An instruction is read from inside the memory. -/
theorem pc_le_of_peek {d : Decoded} (h : c.peek = .ok d) : c.registers.pc ≤ 0xFFE := by
  refine Int.not_lt.1 fun hpc => ?_
  rw [peek, fetch_of_lt hpc] at h
  cases h

end Core

end SuperChip
