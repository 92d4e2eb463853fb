import SuperChip.Proofs.Machine.Moment

/-!
# The ranges of a machine

Whatever a host does with a machine, and however the clock moves meanwhile, it finds every part of
the machine in its range and is told the result of every operation.

- `Machine.Ranges`: what a host finds in a machine.
- `Machine.Rebuilt`: the checks that a reset makes on its way were all passed.
- `ranges_of_madeFrom`: **no host leaves the ranges, and no operation ends without a result**.

About `Machine.reset`, `load`, `step` and `run`, and every handler `op_*`.
-/

namespace SuperChip

namespace Machine

variable {m : Machine}

/-! ## What a host finds -/

/-- The ranges in which a host finds the parts of a machine. -/
structure Ranges (m : Machine) : Prop where
  length_v : m.core.registers.v.toList.length = 16
  length_rpl : m.core.registers.rpl.toList.length = 8
  i_le : m.core.registers.i.toNat ≤ 0xFFF
  sp : 0 ≤ m.core.registers.sp ∧ m.core.registers.sp ≤ 16
  length_stack : m.core.registers.stack.toList.length = 16
  frames : ∀ frame ∈ m.core.registers.stack.toList, 0 ≤ frame ∧ frame ≤ 0x1000
  length_memory : m.core.memory.cells.toList.length = 0x1000
  screen : m.core.screen.HasMode
  length_pixels :
    m.core.screen.pixels.toList.length = m.core.screen.width * m.core.screen.height
  delay_le : m.core.timers.delay.value.toNat ≤ 255
  sound_le : m.core.timers.sound.value.toNat ≤ 255
  pc : 0 ≤ m.core.registers.pc ∧ m.core.registers.pc ≤ 0x10FE
  pc_running : m.status = .running → m.core.registers.pc ≤ 0xFFF

/-- The values of a well-formed machine are in their ranges. -/
theorem WellFormed.ranges (h : m.WellFormed) : m.Ranges where
  length_v := by simp
  length_rpl := by simp
  i_le := by have := m.core.registers.i.isLt; omega
  sp := ⟨h.core.sp_nonneg, h.core.sp_le⟩
  length_stack := by simp
  frames frame hf := by
    obtain ⟨k, hk⟩ := List.mem_iff_getElem?.1 hf
    have hframe : m.core.registers.frameAt k = frame := by
      rw [Registers.frameAt, ← Vector.getElem?_toList, hk]
      rfl
    rw [← hframe]
    exact h.core.frames k
  length_memory := by simp
  screen := h.core.screen
  length_pixels := by simp
  delay_le := Nat.le_of_lt_succ (UInt8.toNat_lt _)
  sound_le := Nat.le_of_lt_succ (UInt8.toNat_lt _)
  pc := ⟨h.core.pc_nonneg, h.core.pc_le⟩
  pc_running := h.pc_le

/-! ## The checks of a reset -/

/-- The memory and the screen are those that their checked operations build, none of which was
refused. -/
structure Rebuilt (m : Machine) : Prop where
  glyphs : (Memory.powerOn 0x1000).2 = .ok ()
  memory : (Memory.powerOn 0x1000).1.loadProgram m.program = .ok m.core.memory
  screen : ∀ room, Screen.ofSize? room 64 32 = .ok m.core.screen

theorem rebuilt_restart (h : m.program.length ≤ programCapacity) (timers : Timers Float) :
    (m.restart timers).value.Rebuilt where
  glyphs := powerOn_ok
  memory := loadProgram_eq _ h
  screen := Screen.ofSize?_low

/-- A machine that halts is as rebuilt as before. -/
theorem Rebuilt.stop (h : m.Rebuilt) (cause : Cause) : (m.stop cause).value.Rebuilt := by
  unfold Machine.stop
  split
  · exact h
  · exact ⟨h.glyphs, h.memory, h.screen⟩

/-- Installing a program rebuilds a machine. -/
theorem rebuilt_install (timers : Timers Float) (program : List UInt8) :
    (m.install timers program).value.1.Rebuilt := by
  unfold install
  split
  · have hempty := rebuilt_restart (m := { m with program := [] }) (Nat.zero_le _) timers
    exact hempty.stop _
  next h => exact rebuilt_restart (m := { m with program := program }) (Nat.le_of_not_lt h) timers

/-- **Whatever a host does, it finds every part of the machine in its range, and loading,
resetting, stepping and running always end with a result**, on whatever clock. -/
theorem ranges_of_madeFrom {setup : Setup} (h : MadeFrom setup m) :
    m.Ranges ∧
      (∀ clock program, (m.loadOn clock program).value.1.Rebuilt) ∧
      (∀ clock, (m.resetOn clock).value.Rebuilt) ∧
      (∀ clock, ∃ r, (m.stepOn clock).result = .ok r) ∧
      (∀ clock limit, ∃ n, (m.runOn clock limit).taken = .ok n) := by
  have hwf := h.keeps.toWellFormed
  refine ⟨hwf.ranges, fun clock program => rebuilt_install _ program,
    fun clock => rebuilt_restart hwf.program_le _, exists_stepOn hwf.core.toInRange,
    fun clock limit => ?_⟩
  obtain ⟨n, -, hn⟩ := exists_taken hwf clock limit.toNat
  exact ⟨n, hn⟩

/-- A machine that was switched on, given a program that ends itself and stepped. -/
theorem ranges_of_sample :
    MadeFrom sampleSetup ((sample [0x00, 0xFD]).respond Float.ofNat .step).machine ∧
      ((sample [0x00, 0xFD]).respond Float.ofNat .step).machine.Ranges := by
  have hmade : MadeFrom sampleSetup ((sample [0x00, 0xFD]).respond Float.ofNat .step).machine :=
    (madeFrom_sample [0x00, 0xFD]).performed Float.ofNat .step
  exact ⟨hmade, (ranges_of_madeFrom hmade).1⟩

end Machine

end SuperChip
