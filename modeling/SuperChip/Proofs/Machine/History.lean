import SuperChip.Proofs.Machine.Step

/-!
# What hosts can make of a machine

- `Machine.ReachedBy`: the machines that a host brings about with the actions that it is allowed;
  `Machine.Reached` allows all of them.
- `Machine.create_eq_ok_iff`: which machines can be switched on, and as what.
- `Machine.WellFormed`: the invariant of machines. `WellFormed.step` and `WellFormed.runSteps` are
  what one step and a whole run preserve, `WellFormed.perform` is every action.
- `Machine.powerOn_eq`, `Machine.loadProgram_eq`: the checks that a reset makes on its way are all
  passed.
-/

namespace SuperChip

namespace Machine

/-- The machine with another keypad, or as it was if the keypad refused. -/
def withKeypad (m : Machine) : Except Invalid Keypad → Machine
  | .ok keypad => { m with keypad := keypad }
  | .error _ => m

/-- The machine with other bytes in its memory, or as it was if they did not fit. -/
def poke (m : Machine) (address : Int) (bytes : List UInt8) : Machine :=
  match m.core.memory.write address bytes with
  | .ok memory => { m with core := { m.core with memory := memory } }
  | .error _ => m

/-- What an action makes of a machine, at a reading of the clock. -/
def perform (m : Machine) (now : Float) : Action → Machine
  | .load program => (m.load now program).value.1
  | .reset => (m.reset now).value
  | .step => (m.step now).machine
  | .run limit => (m.run now limit).machine
  | .halt reason => (m.halt reason).value
  | .press name => m.withKeypad ((m.keypad.press name).map (·.value.1))
  | .release name => m.withKeypad ((m.keypad.release name).map (·.value.1))
  | .pressKey key source => m.withKeypad ((m.keypad.pressKey key source).map (·.value))
  | .releaseKey key source => m.withKeypad ((m.keypad.releaseKey key source).map (·.value))
  | .releaseAll => { m with keypad := m.keypad.reset }
  | .poke address bytes => m.poke address bytes

/-- The machines that a host can bring about with certain actions, however the clock moves
between them. -/
inductive ReachedBy (allowed : Action → Prop) : Machine → Prop
  | created {setup : Setup} {now : Float} {printed : Bool} {o : Observed Machine}
      (h : create setup now printed = .ok o) : ReachedBy allowed o.value
  | performed {m : Machine} (h : ReachedBy allowed m) (now : Float) {a : Action}
      (ha : allowed a) : ReachedBy allowed (m.perform now a)

/-- The machines that a host can bring about at all. -/
abbrev Reached (m : Machine) : Prop := m.ReachedBy fun _ => True

/-! ## Switching on -/

/-- A machine before its first reset. -/
def ofSetup (setup : Setup) (now : Float) (trace : Option Trace) : Machine where
  core := .start [] ⟨.start (1.0 / setup.rate) now 0, .start (1.0 / setup.rate) now 0⟩ setup.random
  keypad := .ofBindings setup.bindings
  trace := trace
  status := .running
  program := []
  steps := 0

/-- A machine is switched on as long as its timers and its trace are accepted. -/
theorem create_eq_ok_iff {setup : Setup} {now : Float} {printed : Bool} {o : Observed Machine} :
    create setup now printed = .ok o ↔
      ¬ setup.rate ≤ 0 ∧ ∃ trace, initialTrace setup.room setup.traceCapacity printed = .ok trace ∧
        o = (ofSetup setup now trace).reset now := by
  unfold create Timers.ofRate? Timer.ofRate? Timer.periodOfRate?
  by_cases hrate : setup.rate ≤ 0
  · simp [hrate, bind, Except.bind]
  · cases htrace : initialTrace setup.room setup.traceCapacity printed with
    | error e => simp [hrate, bind, Except.bind]
    | ok trace =>
      simp only [if_neg hrate, bind, Except.bind, Except.ok.injEq]
      refine ⟨fun h => ⟨hrate, trace, rfl, h.symm⟩, ?_⟩
      rintro ⟨-, trace', rfl, rfl⟩
      rfl

/-- A setup with the standard timers, one random byte and no trace. -/
def sampleSetup : Setup := ⟨Timers.defaultRate, [], .cycle ⟨#[90], ⟨0, by decide⟩⟩, 0, .all⟩

/-- The sample setup is accepted at any time. -/
theorem create_sampleSetup (now : Float) :
    create sampleSetup now false = .ok ((ofSetup sampleSetup now none).reset now) :=
  create_eq_ok_iff.2 ⟨by decide, none, rfl, rfl⟩

/-- The machine of the sample setup with a program. -/
def sample (program : List UInt8) : Machine :=
  (((ofSetup sampleSetup 0 none).reset 0).value.load 0 program).value.1

/-- The sample machine is reached by loading its program. -/
theorem reached_sample (program : List UInt8) : (sample program).Reached :=
  (ReachedBy.created (create_sampleSetup 0)).performed 0 (a := .load program) trivial

/-! ## The invariant -/

/-- The state that hosts and programs keep a machine in. -/
structure WellFormed (m : Machine) : Prop where
  core : m.core.WellFormed
  pc_le : m.status = .running → m.core.registers.pc ≤ 0xFFF
  not_exited : m.status = .running → m.core.exited = false
  program_le : m.program.length ≤ programCapacity

variable {m : Machine} (now : Float)

/-- A machine right after a program was loaded that fits. -/
theorem load_of_le {program : List UInt8} (h : program.length ≤ programCapacity) :
    (m.load now program).value =
      ({ m with
          core := .start program (m.core.timers.reset now) m.core.random
          status := .running
          program := program
          steps := 0 },
        ⟨program.length, none⟩) := by
  rw [load, install, if_neg (Nat.not_lt.2 h)]
  rfl

theorem sample_eq {program : List UInt8} (h : program.length ≤ programCapacity) :
    sample program =
      { ofSetup sampleSetup 0 none with
        core := .start program (ofSetup sampleSetup 0 none).core.timers sampleSetup.random
        program := program } := by
  rw [sample, load_of_le 0 h]
  rfl

/-- A restart makes a machine well formed. -/
theorem WellFormed.restart (h : m.program.length ≤ programCapacity) (timers : Timers Float) :
    (m.restart timers).value.WellFormed where
  core := Core.wellFormed_start _ _ _
  pc_le _ := show (0x200 : Int) ≤ 0xFFF by decide
  not_exited _ := rfl
  program_le := h

theorem WellFormed.reset (h : m.program.length ≤ programCapacity) :
    (m.reset now).value.WellFormed :=
  WellFormed.restart h _

/-- Stopping a machine can only help. -/
theorem WellFormed.stop (h : m.WellFormed) (cause : Cause) : (m.stop cause).value.WellFormed := by
  unfold Machine.stop
  split
  · exact h
  · exact ⟨h.core, nofun, nofun, h.program_le⟩

/-- So does installing a program, also one that is too large. -/
theorem WellFormed.install (timers : Timers Float) (program : List UInt8) :
    (m.install timers program).value.1.WellFormed := by
  unfold Machine.install
  split
  · have hempty := WellFormed.restart (m := { m with program := [] }) (Nat.zero_le _) timers
    exact hempty.stop _
  next h =>
    exact WellFormed.restart (m := { m with program := program }) (Nat.le_of_not_lt h) timers

theorem WellFormed.load (program : List UInt8) : (m.load now program).value.1.WellFormed :=
  WellFormed.install _ program

/-- A machine is created well formed. -/
theorem WellFormed.created {setup : Setup} {printed : Bool} {o : Observed Machine}
    (h : create setup now printed = .ok o) : o.value.WellFormed := by
  obtain ⟨-, trace, -, rfl⟩ := create_eq_ok_iff.1 h
  exact WellFormed.reset now (Nat.zero_le _)

/-- An instruction keeps a running machine well-formed, however it ends. -/
theorem WellFormed.proceed {t : Observed Machine} (h : t.value.WellFormed)
    (hrun : t.value.status = .running) : (proceed t).machine.WellFormed := by
  have hcore := h.core.step t.value.keypad.snapshot
  obtain ⟨f, hs⟩ | ⟨d, -, -, hs⟩ := Core.step_cases h.core.toInRange t.value.keypad.snapshot
  · rw [(proceed_of_fault hrun hs).1]
    exact ⟨h.core, nofun, nofun, h.program_le⟩
  · rw [hs] at hcore
    rw [(proceed_of_completed hrun hs).1]
    exact ⟨hcore, fun hv => (Core.verdict_eq_running_iff.1 hv).2,
      fun hv => (Core.verdict_eq_running_iff.1 hv).1, h.program_le⟩

/-- A step keeps a machine well formed. -/
theorem WellFormed.stepAt (h : m.WellFormed) (delay sound : Float) :
    (m.stepAt delay sound).machine.WellFormed := by
  cases hstatus : m.status with
  | halted cause =>
    rw [stepAt_of_halted (isHalted_of_status hstatus)]
    exact h
  | running =>
    have hticked : (m.tickAt delay sound).value.WellFormed :=
      ⟨h.core.withTimers _, h.pc_le, h.not_exited, h.program_le⟩
    rw [stepAt_of_running hstatus]
    exact hticked.proceed hstatus

theorem WellFormed.step (h : m.WellFormed) : (m.step now).machine.WellFormed := h.stepAt now now

/-- A run takes one step after the other. -/
theorem WellFormed.runSteps (h : m.WellFormed) (limit : Nat) :
    (m.runSteps now limit).machine.WellFormed ∧ ∃ n, (m.runSteps now limit).taken = .ok n := by
  -- the induction is on the limit, and the machine is another one after each step
  induction limit generalizing m with
  | zero => exact ⟨h, 0, rfl⟩
  | succ limit ih =>
    unfold Machine.runSteps
    split
    · exact ⟨h, 0, rfl⟩
    · obtain ⟨r, hr, -⟩ := stepSpec now h.core.toInRange
      obtain ⟨hwf, n, hn⟩ := ih (h.step now)
      simp only [hr]
      exact ⟨hwf, n + 1, by rw [hn]; rfl⟩

theorem WellFormed.withKeypad (h : m.WellFormed) (attempt : Except Invalid Keypad) :
    (m.withKeypad attempt).WellFormed := by
  cases attempt with
  | ok keypad => exact ⟨h.core, h.pc_le, h.not_exited, h.program_le⟩
  | error e => exact h

/-- A host that writes into the memory keeps it well formed. -/
theorem WellFormed.poke (h : m.WellFormed) (address : Int) (bytes : List UInt8) :
    (m.poke address bytes).WellFormed := by
  unfold Machine.poke
  split
  · have hc := h.core
    exact ⟨⟨⟨hc.pc_nonneg, hc.sp_nonneg, hc.sp_le, hc.screen⟩, hc.frames, hc.pc_le⟩,
      h.pc_le, h.not_exited, h.program_le⟩
  · exact h

/-- So does every action. -/
theorem WellFormed.perform (h : m.WellFormed) (a : Action) : (m.perform now a).WellFormed := by
  cases a with
  | load program => exact WellFormed.load now program
  | reset => exact WellFormed.reset now h.program_le
  | step => exact h.step now
  | run limit => exact (h.runSteps now limit.toNat).1
  | halt reason => exact h.stop _
  | press | release | pressKey | releaseKey => exact h.withKeypad _
  | releaseAll => exact ⟨h.core, h.pc_le, h.not_exited, h.program_le⟩
  | poke address bytes => exact h.poke address bytes

/-- A machine that is reached is well formed. -/
theorem ReachedBy.wellFormed {allowed : Action → Prop} (h : m.ReachedBy allowed) :
    m.WellFormed := by
  induction h with
  | created h => exact WellFormed.created _ h
  | performed _ now _ ih => exact ih.perform now _

/-! ## The checks of a reset -/

/-- The glyph tables fit into the memory. -/
theorem powerOn_eq :
    Memory.powerOn 0x1000 =
      (((Memory.blank 0x1000).place Glyph.smallBase Glyph.small).place Glyph.largeBase Glyph.large,
        .ok ()) := by
  have hsmall := Ram.write_natCast (Memory.blank 0x1000) Glyph.smallBase Glyph.small
  rw [if_pos (by rw [Glyph.length_small]; decide)] at hsmall
  have hlarge := Ram.write_natCast ((Memory.blank 0x1000).place Glyph.smallBase Glyph.small)
    Glyph.largeBase Glyph.large
  rw [if_pos (by rw [Glyph.length_large]; decide)] at hlarge
  simp only [Memory.powerOn, hsmall, hlarge]

theorem powerOn_ok : (Memory.powerOn 0x1000).2 = .ok () := by rw [powerOn_eq]

/-- A program that fits is copied into the memory as a whole. -/
theorem loadProgram_eq (memory : Ram) {program : List UInt8}
    (h : program.length ≤ programCapacity) :
    memory.loadProgram program = .ok (memory.place Memory.programStart program) := by
  have hfit : Memory.programStart + program.length ≤ 0x1000 := by
    simp only [Memory.programStart, programCapacity] at h ⊢
    omega
  rw [Memory.loadProgram, if_neg (Nat.not_lt.2 h), Ram.write_natCast, if_pos hfit]

end Machine

end SuperChip
