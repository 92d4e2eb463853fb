import SuperChip.Core.Execute

/-!
# The devices of a processor

Time reaches a program through the timers, and chance through the source of random bytes. What an
instruction does to the rest of the processor depends on these devices only as far as it reads
them.

- `Core.withDevices`: the core with other timers and another source of random bytes.
- `Instruction.ReadsAlike`: an instruction reads the same of other devices.
- `Instruction.timersAfter`, `Instruction.randomAfter`: what an instruction does to the devices.
- `execute_withDevices`, `step_withDevices`: **with other devices of which they read the same an
  instruction and a step do the same**.
-/

namespace SuperChip

namespace Instruction

variable (c : Core) (timers : Timers Float) (random : RandomSource)

/-- An instruction reads the same of other devices as of those that the core has. -/
def ReadsAlike : Instruction → Prop
  | .ldFromDelay _ => timers.delay.value = c.timers.delay.value
  | .rnd .. => random.next.1 = c.random.next.1
  | _ => True

/-- What an instruction makes of the timers. -/
def timersAfter : Instruction → Timers Float
  | .ldDelay x => { timers with delay := timers.delay.set (c.registers.get x) }
  | .ldSound x => { timers with sound := timers.sound.set (c.registers.get x) }
  | _ => timers

/-- What an instruction leaves of the source of random bytes. -/
def randomAfter : Instruction → RandomSource
  | .rnd .. => random.next.2
  | _ => random

end Instruction

namespace Core

variable (c : Core) (timers : Timers Float) (random : RandomSource)

/-- The core with other timers and another source of random bytes. -/
def withDevices : Core := { c with timers := timers, random := random }

theorem withDevices_self : c.withDevices c.timers c.random = c := rfl

/-- What is read next does not depend on the devices. -/
theorem peek_withDevices : (c.withDevices timers random).peek = c.peek := rfl

variable {c timers random}

-- what an access yields need not be computed where only the devices differ
attribute [local irreducible] withLeading Memory.write Memory.read decimalDigits leading

/-- A checked instruction has the same check to pass. -/
theorem checked_withDevices {α : Type} (check : Except Fault α) {next next' : α → Core}
    (h : ∀ a, next' a = (next a).withDevices timers random) :
    (c.withDevices timers random).checked check next' =
      ((c.checked check next).1, (c.checked check next).2.withDevices timers random) := by
  cases check with
  | error f => rfl
  | ok a =>
    show (next' a).completed = ((next a).completed.1, (next a).withDevices timers random)
    rw [h a]
    rfl

/-- Neither does a call. -/
theorem call_withDevices (target : Address) :
    (c.withDevices timers random).call target =
      ((c.call target).1, (c.call target).2.withDevices timers random) := by
  have hpush : (c.withDevices timers random).registers = c.registers := rfl
  unfold call
  rw [hpush]
  cases c.registers.push (c.registers.pc + 2) with
  | error s => rfl
  | ok r => rfl

/-- Neither does a return. -/
theorem returnFromCall_withDevices :
    (c.withDevices timers random).returnFromCall =
      (c.returnFromCall.1, c.returnFromCall.2.withDevices timers random) := by
  have hpop : (c.withDevices timers random).registers = c.registers := rfl
  unfold returnFromCall
  rw [hpop]
  obtain ⟨frame, r⟩ := c.registers.pop
  cases frame with
  | error s => rfl
  | ok frame => rfl

theorem awaitKey_withDevices (keys : Keys) (x : Register) :
    (c.withDevices timers random).awaitKey keys x =
      (c.awaitKey keys x).withDevices timers random := by
  unfold awaitKey
  cases firstPressed keys.toList with
  | none => rfl
  | some key => rfl

/-- **With other devices of which it reads the same an instruction does the same.** -/
theorem execute_withDevices (keys : Keys) {i : Instruction} (h : i.ReadsAlike c timers random) :
    (c.withDevices timers random).execute keys i =
      ((c.execute keys i).1,
        (c.execute keys i).2.withDevices (i.timersAfter c timers) (i.randomAfter random)) := by
  cases i with
  | call target => exact call_withDevices target
  | ret => exact returnFromCall_withDevices
  | ldDecimal x => exact checked_withDevices _ fun _ => rfl
  | store x => exact checked_withDevices _ fun _ => rfl
  | load x => exact checked_withDevices _ fun _ => rfl
  | drw x y rows => exact checked_withDevices _ fun _ => rfl
  | ldKey x => exact congrArg completed (awaitKey_withDevices keys x)
  | ldFromDelay x =>
    have hread : timers.delay.value = c.timers.delay.value := h
    show ((c.withDevices timers random).assign x timers.delay.value).completed = _
    rw [hread]
    rfl
  | rnd x mask =>
    have hread : random.next.1 = c.random.next.1 := h
    show (({ c.withDevices timers random with random := random.next.2 } : Core).assign x
      (random.next.1 &&& mask)).completed = _
    rw [hread]
    rfl
  | _ => rfl

/-! ## Steps -/

variable (c) in
/-- What the next step makes of the timers. -/
def timersAfter (timers : Timers Float) : Timers Float :=
  match c.peek with
  | .ok d => d.instruction.timersAfter c timers
  | .error _ => timers

variable (c) in
/-- What the next step leaves of the source of random bytes. -/
def randomAfter (random : RandomSource) : RandomSource :=
  match c.peek with
  | .ok d => d.instruction.randomAfter random
  | .error _ => random

variable (c timers random) in
/-- The next step reads the same of other devices as of those that the core has. -/
def ReadsAlike : Prop := ∀ d, c.peek = .ok d → d.instruction.ReadsAlike c timers random

/-- **With other devices of which it reads the same a step does the same.** -/
theorem step_withDevices (keys : Keys) (h : c.ReadsAlike timers random) :
    (c.withDevices timers random).step keys =
      ((c.step keys).1,
        (c.step keys).2.withDevices (c.timersAfter timers) (c.randomAfter random)) := by
  unfold step timersAfter randomAfter
  rw [peek_withDevices]
  cases hpeek : c.peek with
  | error f => rfl
  | ok d =>
    simp only [execute_withDevices keys (h d hpeek)]
    obtain ⟨outcome, after⟩ := c.execute keys d.instruction
    cases outcome with
    | error s => rfl
    | ok u => rfl

/-- A core reads of its own devices what it reads of them. -/
theorem readsAlike_self : c.ReadsAlike c.timers c.random := by
  intro d _
  cases d.instruction <;> trivial

/-- What a step does to the devices can be told from the instruction alone. -/
theorem devices_step (keys : Keys) :
    (c.step keys).2.timers = c.timersAfter c.timers ∧
      (c.step keys).2.random = c.randomAfter c.random := by
  have h := step_withDevices keys (readsAlike_self (c := c))
  rw [withDevices_self] at h
  have hcore := congrArg Prod.snd h
  exact ⟨congrArg Core.timers hcore, congrArg Core.random hcore⟩

end Core

/-! ## The period of the timers -/

namespace Timers

/-- Both timers have the same period. -/
structure HasPeriod (timers : Timers Float) (period : Float) : Prop where
  delay : timers.delay.period = period
  sound : timers.sound.period = period

variable {timers timers' : Timers Float} {period : Float}

/-- A tick leaves the period of both timers. -/
theorem HasPeriod.tickAt (h : timers.HasPeriod period) (delay sound : Float) :
    (timers.tickAt delay sound).HasPeriod period := by
  have hkeep : ∀ (t : Timer Float) (now : Float), (t.tick now).period = t.period := by
    intro t now
    unfold Timer.tick
    split <;> rfl
  exact ⟨(hkeep _ _).trans h.delay, (hkeep _ _).trans h.sound⟩

/-- So does a reset. -/
theorem HasPeriod.resetAt (h : timers.HasPeriod period) (delay sound : Float) :
    (timers.resetAt delay sound).HasPeriod period :=
  ⟨h.delay, h.sound⟩

/-- All that timers remember beyond a reset is their period. -/
theorem HasPeriod.resetAt_eq (h : timers.HasPeriod period) (h' : timers'.HasPeriod period)
    (delay sound : Float) : timers.resetAt delay sound = timers'.resetAt delay sound := by
  unfold Timers.resetAt Timer.reset
  rw [h.delay, h.sound, h'.delay, h'.sound]

/-- So does an instruction, which sets values only. -/
theorem HasPeriod.afterInstruction (h : timers.HasPeriod period) (c : Core) (i : Instruction) :
    (i.timersAfter c timers).HasPeriod period := by
  cases i <;> exact ⟨h.delay, h.sound⟩

/-- No step changes the period of the timers. -/
theorem HasPeriod.step {c : Core} (h : c.timers.HasPeriod period) (keys : Keys) :
    (c.step keys).2.timers.HasPeriod period := by
  rw [(Core.devices_step keys).1]
  unfold Core.timersAfter
  cases c.peek with
  | error f => exact h
  | ok d => exact h.afterInstruction c d.instruction

end Timers

end SuperChip
