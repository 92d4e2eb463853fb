import SuperChip.Proofs.Core.Effect

/-!
# Where a program goes

- `Core.nextPc`: the program counter after an instruction that meets no fault.
- `Core.effect_pc`, `effect_sp`, `effect_frameAt`, `effect_hasMode`: what an instruction does to
  the program counter, the call stack and the mode of the screen.
- `Core.WellFormed`: the ranges of a processor together with the frames on its stack and the
  farthest place that the program counter gets to.
- `WellFormed.step`: **a step keeps a processor well-formed**, whether it completes or not.
-/

namespace SuperChip

/-- Drawing keeps the size of a screen. -/
theorem Screen.HasMode.draw {s : Screen} (h : s.HasMode) (sprite : Sprite) (x y : Int) :
    (s.draw sprite x y).1.HasMode := by
  unfold HasMode Screen.draw
  rw [(s.size_toggleAll _).1, (s.size_toggleAll _).2]
  exact h

namespace Core

variable {c : Core} (keys : Keys)

-- the replaced registers need not be computed where another part of the state is compared
attribute [local irreducible] withLeading

/-! ## The program counter -/

/-- The program counter after the next word, or after the word behind it. -/
def skipPc (c : Core) (skip : Bool) : Int := c.registers.pc + if skip then 4 else 2

/-- The program counter after an instruction that meets no fault. -/
def nextPc (c : Core) (keys : Keys) : Instruction → Int
  | .ret => c.registers.frameAt (c.registers.sp - 1).toNat
  | .exit => c.registers.pc
  | .jp target | .call target => target.toNat
  | .jpOffset target => target.toNat + (c.registers.get Registers.base).toNat
  | .seByte x byte => c.skipPc (c.registers.get x == byte)
  | .sneByte x byte => c.skipPc (c.registers.get x != byte)
  | .seReg x y => c.skipPc (c.registers.get x == c.registers.get y)
  | .sneReg x y => c.skipPc (c.registers.get x != c.registers.get y)
  | .skp x => c.skipPc (c.keyDown keys x)
  | .sknp x => c.skipPc (!c.keyDown keys x)
  | .ldKey _ => if firstPressed keys.toList = none then c.registers.pc else c.registers.pc + 2
  | _ => c.registers.pc + 2

/-- Every instruction that completes goes on where `nextPc` says. -/
theorem effect_pc (i : Instruction) : (c.effect keys i).registers.pc = c.nextPc keys i := by
  cases i with
  | ldKey x =>
    show (c.awaitKey keys x).registers.pc = _
    unfold awaitKey nextPc
    cases firstPressed keys.toList <;> rfl
  | _ => rfl

/-! ## The call stack -/

/-- Only calls and returns move the stack pointer. -/
theorem effect_sp (i : Instruction) :
    (c.effect keys i).registers.sp =
      match i with
      | .call _ => c.registers.sp + 1
      | .ret => c.registers.sp - 1
      | _ => c.registers.sp := by
  cases i with
  | ldKey x =>
    show (c.awaitKey keys x).registers.sp = _
    unfold awaitKey
    cases firstPressed keys.toList <;> rfl
  | _ => rfl

/-- Only calls write the stack. -/
theorem effect_stack (i : Instruction) :
    (c.effect keys i).registers.stack =
      match i with
      | .call _ => c.registers.stack.setIfInBounds c.registers.sp.toNat (c.registers.pc + 2)
      | _ => c.registers.stack := by
  cases i with
  | ldKey x =>
    show (c.awaitKey keys x).registers.stack = _
    unfold awaitKey
    cases firstPressed keys.toList <;> rfl
  | _ => rfl

/-- A frame is either the one that was there or the place behind a call. -/
theorem effect_frameAt (i : Instruction) (k : Nat) :
    (c.effect keys i).registers.frameAt k = c.registers.frameAt k ∨
      (c.effect keys i).registers.frameAt k = c.registers.pc + 2 := by
  unfold Registers.frameAt
  rw [effect_stack]
  cases i with
  | call target =>
    simp only [Vector.getElem?_setIfInBounds]
    split
    · split
      · exact .inr rfl
      next h => exact .inl (by rw [Vector.getElem?_eq_none (by omega)])
    · exact .inl rfl
  | _ => exact .inl rfl

/-! ## The mode of the screen -/

/-- Every instruction leaves a picture of one of the two resolutions. -/
theorem effect_hasMode (h : c.screen.HasMode) (i : Instruction) :
    (c.effect keys i).screen.HasMode := by
  cases i with
  | low => exact .inl ⟨rfl, rfl⟩
  | high => exact .inr ⟨rfl, rfl⟩
  | drw x y rows => exact h.draw _ _ _
  | ldKey x =>
    show (c.awaitKey keys x).screen.HasMode
    unfold awaitKey
    cases firstPressed keys.toList <;> exact h
  | _ => exact h

/-! ## Well-formed processors -/

/-- The state that programs keep the processor in: in range, with frames that a call can have
left, and no farther out than the longest jump leads. -/
structure WellFormed (c : Core) : Prop extends c.InRange where
  frames : ∀ k, 0 ≤ c.registers.frameAt k ∧ c.registers.frameAt k ≤ 0x1000
  pc_le : c.registers.pc ≤ 0x10FE

/-- A processor that starts is well formed. -/
theorem wellFormed_start (program : List UInt8) (timers : Timers Float)
    (random : RandomSource) : (Core.start program timers random).WellFormed where
  toInRange := inRange_start program timers random
  frames k := by
    have h : (Core.start program timers random).registers.frameAt k =
        (Vector.replicate 16 (0 : Int))[k]?.getD 0 := rfl
    rw [h, Vector.getElem?_replicate]
    split <;> simp
  pc_le := show (0x200 : Int) ≤ 0x10FE by decide

/-- The processor after its timers have looked at a clock reading. -/
def ticked (c : Core) (now : Float) : Core := { c with timers := c.timers.tick now }

theorem ticked_start (program : List UInt8) (timers : Timers Float) (random : RandomSource)
    (now : Float) :
    (start program timers random).ticked now = start program (timers.tick now) random := rfl

/-- The timers do not take a processor out of its ranges. -/
theorem InRange.ticked (h : c.InRange) (now : Float) : (c.ticked now).InRange :=
  ⟨h.pc_nonneg, h.sp_nonneg, h.sp_le, h.screen⟩

theorem WellFormed.withTimers (h : c.WellFormed) (timers : Timers Float) :
    ({ c with timers := timers } : Core).WellFormed :=
  ⟨⟨h.pc_nonneg, h.sp_nonneg, h.sp_le, h.screen⟩, h.frames, h.pc_le⟩

/-- An instruction that was fetched leads to the first address behind the memory and the word
after it at the most, unless it jumps there with an offset. -/
theorem nextPc_bounds (h : c.WellFormed) (hpc : c.registers.pc ≤ 0xFFE) (i : Instruction) :
    0 ≤ c.nextPc keys i ∧ c.nextPc keys i ≤ 0x10FE := by
  have hpos := h.pc_nonneg
  have hskip : ∀ skip, 0 ≤ c.skipPc skip ∧ c.skipPc skip ≤ 0x10FE := by
    intro skip
    unfold skipPc
    split <;> omega
  cases i with
  | ret =>
    have := h.frames (c.registers.sp - 1).toNat
    show 0 ≤ c.registers.frameAt _ ∧ c.registers.frameAt _ ≤ 0x10FE
    omega
  | exit =>
    show 0 ≤ c.registers.pc ∧ c.registers.pc ≤ 0x10FE
    omega
  | jp target | call target =>
    have := target.isLt
    show (0 : Int) ≤ (target.toNat : Int) ∧ (target.toNat : Int) ≤ 0x10FE
    omega
  | jpOffset target =>
    -- the farthest of all: `0xFFF + 0xFF`
    have := target.isLt
    have := (c.registers.get Registers.base).toNat_lt
    show (0 : Int) ≤ (target.toNat : Int) + ((c.registers.get Registers.base).toNat : Int) ∧
      (target.toNat : Int) + ((c.registers.get Registers.base).toNat : Int) ≤ 0x10FE
    omega
  | ldKey x =>
    simp only [nextPc]
    split <;> omega
  | seByte | sneByte | seReg | sneReg | skp | sknp => exact hskip _
  | _ => exact hskip false

/-- An instruction that completes keeps a processor well formed. -/
theorem WellFormed.effect (h : c.WellFormed) (hpc : c.registers.pc ≤ 0xFFE) {i : Instruction}
    (hi : i.refusal? c = none) : (c.effect keys i).WellFormed := by
  have hsp := h.sp_nonneg
  have hsp' := h.sp_le
  have hnext := nextPc_bounds keys h hpc i
  have hstack : 0 ≤ (c.effect keys i).registers.sp ∧ (c.effect keys i).registers.sp ≤ 16 := by
    rw [effect_sp]
    cases i with
    -- the check of a call or a return is just what keeps the stack pointer in range
    | call target =>
      have hfull : ¬ c.registers.sp = 16 := fun hfull => by simp [Instruction.refusal?, hfull] at hi
      show 0 ≤ c.registers.sp + 1 ∧ c.registers.sp + 1 ≤ 16
      omega
    | ret =>
      have hempty : ¬ c.registers.sp = 0 := fun hempty => by
        simp [Instruction.refusal?, hempty] at hi
      show 0 ≤ c.registers.sp - 1 ∧ c.registers.sp - 1 ≤ 16
      omega
    | _ => exact ⟨hsp, hsp'⟩
  refine ⟨⟨?_, hstack.1, hstack.2, effect_hasMode keys h.screen i⟩, fun k => ?_, ?_⟩
  · rw [effect_pc]
    exact hnext.1
  · have hpos := h.pc_nonneg
    have hk := h.frames k
    rcases effect_frameAt keys i k with hf | hf <;> rw [hf] <;> omega
  · rw [effect_pc]
    exact hnext.2

/-- **A step keeps a processor well-formed.** -/
theorem WellFormed.step (h : c.WellFormed) (keys : Keys) : (c.step keys).2.WellFormed := by
  obtain ⟨f, hs⟩ | ⟨d, hd, hi, hs⟩ := step_cases h.toInRange keys <;> rw [hs]
  · exact h
  · exact h.effect keys (pc_le_of_peek hd) hi

end Core

end SuperChip
