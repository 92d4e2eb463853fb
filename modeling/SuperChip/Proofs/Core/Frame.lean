import SuperChip.Proofs.Core.Fault
import SuperChip.Proofs.Core.Flow

/-!
# What an instruction leaves alone

An instruction changes a few parts of the processor and no other. Which parts these are can be read
off the instruction itself, without executing it.

- `Instruction.storedLength`, `redraws`, `movesIndex`, `writes`, `savedLength`, `stackShift`: the
  cells, the picture, the index register, the byte registers, the flag registers and the stack
  pointer, as far as an instruction may change them.
- `Core.effect_byteAt`, `effect_screen`, `effect_index`, `effect_get`, `effect_rpl`, `effect_delay`,
  `effect_sound`, `effect_random`, `effect_exited`, `effect_waiting`, `effect_frameAt_of_ne`: what
  an instruction leaves of each part of the processor.
- `Core.Touches`: all of this together, with the stack and the program counter.
- `step_touches_named_parts`: **a step that completes changes nothing that its instruction does not
  name**.
- `Core.Holds`: a program stands in memory; `Touches.holds`: it stays there unless an instruction
  stores into its cells.

About the handlers `op_*`.
-/

namespace SuperChip

/-! ## The parts that an instruction names -/

namespace Instruction

/-- The number of cells that an instruction stores from the index register on. -/
def storedLength : Instruction → Nat
  | ldDecimal _ => 3
  | store x => x.val + 1
  | _ => 0

/-- Whether an instruction may change the picture. -/
def redraws : Instruction → Bool
  | cls | scd _ | scr | scl | low | high | drw .. => true
  | _ => false

/-- Whether an instruction may change the index register. -/
def movesIndex : Instruction → Bool
  | ldIndex _ | addIndex _ | ldGlyph _ | ldLargeGlyph _ => true
  | _ => false

/-- Whether an instruction may change a byte register. -/
def writes (k : Register) : Instruction → Bool
  | ldByte x _ | addByte x _ | ldReg x _ | or x _ | and x _ | xor x _ | rnd x _ | ldFromDelay x
  | ldKey x => k == x
  | addReg x _ | sub x _ | shr x | subn x _ | shl x => k == x || k == Registers.flag
  | drw .. => k == Registers.flag
  | load x => decide (k.val ≤ x.val)
  | restoreFlags x => decide (k.val ≤ x.val)
  | _ => false

/-- The number of flag registers that an instruction may change, from the first one on. -/
def savedLength : Instruction → Nat
  | saveFlags x => x.val + 1
  | _ => 0

/-- By how many frames an instruction raises the stack pointer. -/
def stackShift : Instruction → Int
  | call _ => 1
  | ret => -1
  | _ => 0

end Instruction

/-! ## Rows that are replaced in part -/

/-- A write leaves the cells that it does not cover. -/
theorem Ram.byteAt_place_of_outside (m : Ram) {address a : Nat} {bytes : List UInt8}
    (h : a < address ∨ address + bytes.length ≤ a) :
    Ram.byteAt (m.place address bytes) a = m.byteAt a := by
  unfold byteAt
  by_cases ha : a < 0x1000
  · have hout : ¬ (address ≤ a ∧ a < address + bytes.length) := by omega
    rw [Vector.getElem?_eq_getElem ha, Vector.getElem?_eq_getElem ha, Memory.getElem_place,
      dif_neg hout]
  · rw [Vector.getElem?_eq_none (Nat.not_lt.1 ha), Vector.getElem?_eq_none (Nat.not_lt.1 ha)]

/-- Replacing the first entries of a row leaves the others. -/
theorem getElem_withLeading_of_le {n : Nat} (row : Vector UInt8 n) {bytes : List UInt8} {k : Nat}
    (hk : k < n) (h : bytes.length ≤ k) : (withLeading row bytes)[k] = row[k] := by
  unfold withLeading
  rw [Vector.getElem_ofFn, List.getD_eq_getElem?_getD, List.getElem?_eq_none h]
  rfl

theorem length_leading_le {n : Nat} (row : Vector UInt8 n) (count : Nat) :
    (leading row count).length ≤ count := by
  rw [leading, List.length_take]
  exact Nat.min_le_left _ _

namespace Core

variable {c : Core}

theorem length_indexed_le (length : Nat) : (c.indexed length).length ≤ length := by
  rw [indexed, Memory.length_slice]
  omega

variable (keys : Keys)

/-! ## The parts of the processor after an instruction -/

/-- The registers after waiting for a key: as they were, or with the key in a register. -/
def awaitedRegisters (c : Core) (keys : Keys) (x : Register) : Registers :=
  match firstPressed keys.toList with
  | none => c.registers
  | some key => (c.registers.set x (UInt8.ofNat key)).advance false

/-- Waiting for a key changes the registers and the wait only. -/
theorem effect_ldKey (x : Register) :
    c.effect keys (.ldKey x) =
      { c with
        registers := c.awaitedRegisters keys x
        waiting := (firstPressed keys.toList).isNone } := by
  show c.awaitKey keys x = _
  unfold awaitKey awaitedRegisters
  cases firstPressed keys.toList <;> rfl

variable (c) in
/-- Waiting for a key leaves the registers or writes one of them. -/
theorem awaitedRegisters_cases (x : Register) :
    c.awaitedRegisters keys x = c.registers ∨
      ∃ b, c.awaitedRegisters keys x = (c.registers.set x b).advance false := by
  unfold awaitedRegisters
  cases firstPressed keys.toList with
  | none => exact .inl rfl
  | some key => exact .inr ⟨_, rfl⟩

-- the replaced rows need not be computed where another part of the state is compared
attribute [local irreducible] withLeading

/-- An instruction writes no cell outside the bytes that it stores at the index. -/
theorem effect_byteAt {i : Instruction} {a : Nat}
    (h : a < c.registers.i.toNat ∨ c.registers.i.toNat + i.storedLength ≤ a) :
    (c.effect keys i).memory.byteAt a = c.memory.byteAt a := by
  cases i with
  | ldDecimal x =>
    have hlength : (decimalDigits (c.registers.get x)).length = 3 := rfl
    exact Ram.byteAt_place_of_outside _ (by rw [hlength]; exact h)
  | store x => exact Ram.byteAt_place_of_outside _ (by rw [length_leading]; exact h)
  | ldKey x => rw [effect_ldKey]
  | _ => rfl

/-- The picture is changed by those that redraw it only. -/
theorem effect_screen {i : Instruction} (h : i.redraws = false) :
    (c.effect keys i).screen = c.screen := by
  cases i with
  | ldKey x => rw [effect_ldKey]
  | cls | scd | scr | scl | low | high | drw => cases h
  | _ => rfl

/-- The index is changed by those that move it only. -/
theorem effect_index {i : Instruction} (h : i.movesIndex = false) :
    (c.effect keys i).registers.i = c.registers.i := by
  cases i with
  | ldKey x =>
    rw [effect_ldKey]
    obtain he | ⟨b, he⟩ := c.awaitedRegisters_cases keys x
    · rw [he]
    · rw [he]
      rfl
  | ldIndex | addIndex | ldGlyph | ldLargeGlyph => cases h
  | _ => rfl

/-- Putting a byte into one register leaves the others, whether a flag is put behind it or not. -/
theorem get_assignWithFlag_of_ne {x k : Register} (hx : k ≠ x) (hflag : k ≠ Registers.flag)
    (b : UInt8) (flag : Bool) :
    (c.assignWithFlag x b flag).registers.get k = c.registers.get k :=
  (Registers.get_set_of_ne _ _ hflag).trans (Registers.get_set_of_ne _ _ hx)

/-- A register is changed by those that write it only. -/
theorem effect_get {i : Instruction} {k : Register} (h : i.writes k = false) :
    (c.effect keys i).registers.get k = c.registers.get k := by
  cases i with
  | ldByte x | addByte x | ldReg x | or x | and x | xor x | rnd x | ldFromDelay x =>
    exact Registers.get_set_of_ne _ _ (by simpa [Instruction.writes] using h)
  | addReg x | sub x | shr x | subn x | shl x =>
    have hne : k ≠ x ∧ k ≠ Registers.flag := by simpa [Instruction.writes] using h
    exact get_assignWithFlag_of_ne hne.1 hne.2 _ _
  | drw => exact Registers.get_set_of_ne _ _ (by simpa [Instruction.writes] using h)
  | ldKey x =>
    rw [effect_ldKey]
    obtain he | ⟨b, he⟩ := c.awaitedRegisters_cases keys x
    · rw [he]
    · rw [he]
      exact Registers.get_set_of_ne _ _ (by simpa [Instruction.writes] using h)
  | load x =>
    have hlt : x.val < k.val := by simpa [Instruction.writes] using h
    exact getElem_withLeading_of_le _ k.isLt (Nat.le_trans (length_indexed_le _) hlt)
  | restoreFlags x =>
    have hlt : x.val < k.val := by simpa [Instruction.writes] using h
    exact getElem_withLeading_of_le _ k.isLt (Nat.le_trans (length_leading_le _ _) hlt)
  | _ => rfl

/-- A flag register is changed by those that save it only. -/
theorem effect_rpl {i : Instruction} {k : Nat} (hk : k < 8) (h : i.savedLength ≤ k) :
    (c.effect keys i).registers.rpl[k] = c.registers.rpl[k] := by
  cases i with
  | saveFlags x =>
    exact getElem_withLeading_of_le _ hk (Nat.le_trans (length_leading_le _ _) h)
  | ldKey x =>
    rw [effect_ldKey]
    obtain he | ⟨b, he⟩ := c.awaitedRegisters_cases keys x
    · simp only [he]
    · simp only [he]
      rfl
  | _ => rfl

theorem effect_delay {i : Instruction} (h : ∀ x, i ≠ .ldDelay x) :
    (c.effect keys i).timers.delay = c.timers.delay := by
  cases i with
  | ldDelay x => exact absurd rfl (h x)
  | ldKey x => rw [effect_ldKey]
  | _ => rfl

theorem effect_sound {i : Instruction} (h : ∀ x, i ≠ .ldSound x) :
    (c.effect keys i).timers.sound = c.timers.sound := by
  cases i with
  | ldSound x => exact absurd rfl (h x)
  | ldKey x => rw [effect_ldKey]
  | _ => rfl

/-- A random byte is taken by `RND` only. -/
theorem effect_random {i : Instruction} (h : ∀ x mask, i ≠ .rnd x mask) :
    (c.effect keys i).random = c.random := by
  cases i with
  | rnd x mask => exact absurd rfl (h x mask)
  | ldKey x => rw [effect_ldKey]
  | _ => rfl

/-- The end is marked by `EXIT` only. -/
theorem effect_exited {i : Instruction} (h : i ≠ .exit) :
    (c.effect keys i).exited = c.exited := by
  cases i with
  | exit => exact absurd rfl h
  | ldKey x => rw [effect_ldKey]
  | _ => rfl

/-- The wait is changed by waiting for a key only. -/
theorem effect_waiting {i : Instruction} (h : ∀ x, i ≠ .ldKey x) :
    (c.effect keys i).waiting = c.waiting := by
  cases i with
  | ldKey x => exact absurd rfl (h x)
  | _ => rfl

/-! ## The call stack -/

theorem effect_sp_eq_add (i : Instruction) :
    (c.effect keys i).registers.sp = c.registers.sp + i.stackShift := by
  rw [effect_sp]
  cases i with
  | call target => rfl
  | ret => rfl
  | _ => exact (Int.add_zero _).symm

/-- A call puts the place behind it into the first free slot. -/
theorem effect_frameAt_call (h : c.registers.sp < 16) (target : Address) :
    (c.effect keys (.call target)).registers.frameAt c.registers.sp.toNat =
      c.registers.pc + 2 := by
  have hslot : c.registers.sp.toNat < 16 := by omega
  rw [Registers.frameAt, effect_stack]
  simp [hslot]

/-- No other slot is written, and none by another instruction. -/
theorem effect_frameAt_of_ne (h : 0 ≤ c.registers.sp) {i : Instruction} {k : Nat}
    (hk : (k : Int) ≠ c.registers.sp ∨ ∀ target, i ≠ .call target) :
    (c.effect keys i).registers.frameAt k = c.registers.frameAt k := by
  rw [Registers.frameAt, effect_stack]
  cases i with
  | call target =>
    have hne : c.registers.sp.toNat ≠ k := by
      obtain hne | hcall := hk
      · omega
      · exact absurd rfl (hcall target)
    simp only [Vector.getElem?_setIfInBounds, if_neg hne, Registers.frameAt]
  | _ => rfl

/-! ## Everything together -/

/-- A processor differs from another in nothing but what an instruction names. -/
structure Touches (c : Core) (keys : Keys) (i : Instruction) (c' : Core) : Prop where
  memory : ∀ a, a < c.registers.i.toNat ∨ c.registers.i.toNat + i.storedLength ≤ a →
    c'.memory.byteAt a = c.memory.byteAt a
  screen : i.redraws = false → c'.screen = c.screen
  sp : c'.registers.sp = c.registers.sp + i.stackShift
  /-- The frame that a call leaves. -/
  pushed : ∀ target, i = .call target →
    c'.registers.frameAt c.registers.sp.toNat = c.registers.pc + 2
  frames : ∀ k : Nat, ((k : Int) ≠ c.registers.sp ∨ ∀ target, i ≠ .call target) →
    c'.registers.frameAt k = c.registers.frameAt k
  rpl : ∀ (k : Nat) (hk : k < 8), i.savedLength ≤ k →
    c'.registers.rpl[k] = c.registers.rpl[k]
  index : i.movesIndex = false → c'.registers.i = c.registers.i
  v : ∀ k, i.writes k = false → c'.registers.get k = c.registers.get k
  delay : (∀ x, i ≠ .ldDelay x) → c'.timers.delay = c.timers.delay
  sound : (∀ x, i ≠ .ldSound x) → c'.timers.sound = c.timers.sound
  random : (∀ x mask, i ≠ .rnd x mask) → c'.random = c.random
  exited : i ≠ .exit → c'.exited = c.exited
  waiting : (∀ x, i ≠ .ldKey x) → c'.waiting = c.waiting
  pc : c'.registers.pc = c.nextPc keys i

/-- The effect of an instruction that meets no fault. -/
theorem touches_effect (h : c.InRange) {i : Instruction} (hi : i.refusal? c = none) :
    c.Touches keys i (c.effect keys i) where
  memory _ := effect_byteAt keys
  screen := effect_screen keys
  sp := effect_sp_eq_add keys i
  pushed := by
    rintro target rfl
    have hfull : ¬ c.registers.sp = 16 := fun hfull => by simp [Instruction.refusal?, hfull] at hi
    have := h.sp_le
    exact effect_frameAt_call keys (by omega) target
  frames _ := effect_frameAt_of_ne keys h.sp_nonneg
  rpl _ := effect_rpl keys
  index := effect_index keys
  v _ := effect_get keys
  delay := effect_delay keys
  sound := effect_sound keys
  random := effect_random keys
  exited := effect_exited keys
  waiting := effect_waiting keys
  pc := effect_pc keys i

/-- **A step that completes changes nothing that its instruction does not name.** -/
theorem step_touches_named_parts (h : c.InRange) {d : Decoded} {c' : Core}
    (hs : c.step keys = (.ok d, c')) : c.peek = .ok d ∧ c.Touches keys d.instruction c' := by
  obtain ⟨f, hf⟩ | ⟨d', hd, hi, hd'⟩ := step_cases h keys
  · cases hf.symm.trans hs
  · cases hd'.symm.trans hs
    exact ⟨hd, touches_effect keys h hi⟩

/-- A program that adds the flag register to itself, so that the sum and the carry meet. -/
theorem step_touches_flag_of_sample :
    let c := start [0x8F, 0xF4] ⟨.start 1 0 0, .start 1 0 0⟩ (.seeded 0)
    let keys := Vector.replicate 16 false
    ∃ c', c.InRange ∧ c.step keys = (.ok ⟨0x8FF4, .addReg 15 15⟩, c') ∧
      c.Touches keys (.addReg 15 15) c' := by
  intro c keys
  have hrange := inRange_start [0x8F, 0xF4] ⟨.start 1 0 0, .start 1 0 0⟩ (.seeded 0)
  have hs : c.step keys = (.ok ⟨0x8FF4, .addReg 15 15⟩, c.effect keys (.addReg 15 15)) := by
    rw [step_eq hrange, peek_start]
    rfl
  exact ⟨_, hrange, hs, (step_touches_named_parts keys hrange hs).2⟩

/-! ## Programs that are not overwritten -/

/-- A program stands in memory as it was loaded. -/
def Holds (c : Core) (program : List UInt8) : Prop :=
  ∀ (k : Nat) (hk : k < program.length),
    c.memory.byteAt (Memory.programStart + k) = program[k]

/-- An instruction stores into a cell of a program of so many bytes. -/
def Overwrites (c : Core) (length : Nat) (i : Instruction) : Prop :=
  ∃ a, c.registers.i.toNat ≤ a ∧ a < c.registers.i.toNat + i.storedLength ∧
    Memory.programStart ≤ a ∧ a < Memory.programStart + length

theorem holds_start {program : List UInt8} (h : program.length ≤ programCapacity)
    (timers : Timers Float) (random : RandomSource) :
    (start program timers random).Holds program := by
  intro k hk
  refine Ram.byteAt_boot hk ?_
  simp only [Memory.programStart, programCapacity] at h ⊢
  omega

variable {keys}

/-- An instruction that stores elsewhere leaves the program in place. -/
theorem Touches.holds {c' : Core} {i : Instruction} (ht : c.Touches keys i c')
    {program : List UInt8} (h : c.Holds program) (hkept : ¬ c.Overwrites program.length i) :
    c'.Holds program := by
  intro k hk
  refine (ht.memory _ ?_).trans (h k hk)
  refine Decidable.byContradiction fun hcovered => ?_
  exact hkept ⟨Memory.programStart + k, by omega, by omega, by omega, by omega⟩

/-- The word at the program counter is the one that the program has there. -/
theorem Holds.word_eq {program : List UInt8} (h : c.Holds program)
    (hfit : program.length ≤ programCapacity) {k : Nat} (hk : k + 1 < program.length)
    (hpc : c.registers.pc = (Memory.programStart + k : Nat)) :
    c.registers.pc ≤ 0xFFE ∧ c.word = Memory.wordOf program[k] program[k + 1] := by
  simp only [Memory.programStart, programCapacity] at hfit hpc
  refine ⟨by omega, ?_⟩
  have hplace : c.registers.pc.toNat = Memory.programStart + k := by
    rw [hpc, Int.toNat_natCast, Memory.programStart]
  rw [word, hplace, h k (by omega), Nat.add_assoc, h (k + 1) hk]

/-- The instruction at the program counter is the one that the program has there. -/
theorem Holds.peek_eq (hrange : c.InRange) {program : List UInt8} (h : c.Holds program)
    (hfit : program.length ≤ programCapacity) {k : Nat} (hk : k + 1 < program.length)
    (hpc : c.registers.pc = (Memory.programStart + k : Nat)) :
    c.peek = Decoded.ofWord (Memory.wordOf program[k] program[k + 1]) := by
  obtain ⟨hle, hword⟩ := h.word_eq hfit hk hpc
  rw [Core.peek_eq hrange, if_neg (Int.not_lt.2 hle), hword]

end Core

end SuperChip
