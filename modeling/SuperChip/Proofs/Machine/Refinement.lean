import SuperChip.Proofs.Machine.Moment

/-!
# Machines refine bare processors

The processor can be run without a machine around it, by a loop that lets both timers look at the
clock and steps the processor until it stops. A machine does the same, but notices a program that
has left the memory one step earlier than the loop.

- `Core.Loop`: how far the loop has come; `Loop.next` is one round, `Loop.after` many.
- `Machine.stepped`: a machine after many steps, each with a keypad of its own.
- `Machine.InStep`: the simulation relation. `InStep.next` is one step of both sides, and
  `inStep_after` is a whole run.
- `Machine.stepped_refines_loop`: **a machine passes through the states of the loop and halts for
  the same cause**.

About `Machine.step`, `TimerPair.tick` and `Chip8CPU.step`.
-/

namespace SuperChip

/-- Every choice of keys is what some keypad shows. -/
theorem Keypad.exists_snapshot_eq (keys : Keys) : ∃ k : Keypad, k.snapshot = keys := by
  refine ⟨⟨[], keys, keys.map fun down => if down then [""] else []⟩, ?_⟩
  ext k hk
  cases h : keys[k] <;> simp [snapshot, isDown, Vector.get, h]

/-! ## The loop -/

/-- How far a loop around a bare processor has come. -/
inductive Core.Loop where
  | going (core : Core)
  | exited (core : Core)
  | raised (stop : Stop) (core : Core)

namespace Core.Loop

/-- One round: both timers look at the clock and the processor takes a step. A loop that has ended
stays as it is. -/
def next (clock : Clock) (keys : Keys) : Loop → Loop
  | going c =>
    match (c.tickedOn clock).step keys with
    | (.ok _, c) => if c.exited then exited c else going c
    | (.error s, c) => raised s c
  | exited c => exited c
  | raised s c => raised s c

/-- The loop after so many rounds, in each of which the clock has moved on. -/
def after (clock : Clock) (keys : Nat → Keys) (c : Core) : Nat → Loop
  | 0 => going c
  | n + 1 => (after clock keys c n).next (clock.skip (2 * n)) (keys n)

variable {c c' : Core} {clock : Clock} {keys : Keys}

theorem next_of_error {s : Stop} (h : (c.tickedOn clock).step keys = (.error s, c')) :
    (going c).next clock keys = .raised s c' := by
  simp only [next, h]

theorem next_of_ok {d : Decoded} (h : (c.tickedOn clock).step keys = (.ok d, c')) :
    (going c).next clock keys = if c'.exited then .exited c' else .going c' := by
  simp only [next, h]

/-- A program that has left the memory is noticed when its next word is fetched. -/
theorem next_of_beyond (hpc : 0xFFF < c.registers.pc) :
    (going c).next clock keys =
      .raised (.fault (.outOfBounds c.registers.pc 2)) (c.tickedOn clock) := by
  have hfetch : (c.tickedOn clock).fetch = .error (.outOfBounds c.registers.pc 2) :=
    fetch_of_lt (c := c.tickedOn clock) (Int.lt_trans (by decide) hpc)
  exact next_of_error (by rw [Core.step, Core.peek, hfetch])

/-- A loop that still goes on after a round was inside the memory before it. -/
theorem going_of_next {l : Loop} (h : l.next clock keys = .going c') :
    ∃ c, l = .going c ∧ c.registers.pc ≤ 0xFFF := by
  cases l with
  | going c =>
    refine ⟨c, rfl, Int.not_lt.1 fun hpc => ?_⟩
    rw [next_of_beyond hpc] at h
    cases h
  | exited c => cases h
  | raised s c => cases h

/-- A loop that has raised an error did so in one of its rounds. -/
theorem exists_round_of_raised {keys : Nat → Keys} {s : Stop} {n : Nat}
    (h : after clock keys c n = .raised s c') :
    ∃ k < n, ∃ b, after clock keys c k = .going b ∧
      after clock keys c (k + 1) = .raised s c' := by
  induction n with
  | zero => cases h
  | succ n ih =>
    cases hn : after clock keys c n with
    | going b => exact ⟨n, Nat.lt_succ_self n, b, hn, h⟩
    | exited b =>
      rw [after, hn] at h
      cases h
    | raised t b =>
      rw [after, hn] at h
      cases h
      obtain ⟨k, hk, round⟩ := ih hn
      exact ⟨k, Nat.lt_succ_of_lt hk, round⟩

end Core.Loop

namespace Machine

/-- The machine after so many steps. Before each of them the host puts the keypad into the state
that is due, and both timers look at the clock in it. -/
def stepped (clock : Clock) (pads : Nat → Keypad) (m : Machine) : Nat → Machine
  | 0 => m
  | n + 1 => ({ stepped clock pads m n with keypad := pads n }.stepOn (clock.skip (2 * n))).machine

/-! ## The simulation -/

/-- A machine and a loop that have come equally far. While the loop goes on the machine has
already passed its verdict on the instruction that both completed last. -/
inductive InStep (m : Machine) : Core.Loop → Prop
  | going (hwf : m.core.WellFormed) (hexit : m.core.exited = false)
      (hstatus : m.status = m.core.verdict) : InStep m (.going m.core)
  | exited (hstatus : m.status = .halted .exit) : InStep m (.exited m.core)
  | raised {c : Core} {f : Fault} (hstatus : m.status = .halted (.fault f)) :
      InStep m (.raised (.fault f) c)

variable {m : Machine}

/-- A halted machine stays as it is, whatever the keypad. -/
theorem stepOn_of_status {cause : Cause} (h : m.status = .halted cause) (clock : Clock) :
    (m.stepOn clock).machine = m := by
  rw [stepOn, stepAt_of_halted (isHalted_of_status h)]

/-- **One step of the machine is one round of the loop.** -/
theorem InStep.next {l : Core.Loop} (h : InStep m l) (clock : Clock) (pad : Keypad) :
    InStep ({ m with keypad := pad }.stepOn clock).machine (l.next clock pad.snapshot) := by
  cases h with
  | going hwf hexit hstatus =>
    by_cases hpc : m.core.registers.pc ≤ 0xFFF
    · let q : Moment := ⟨{ m with keypad := pad }, clock⟩
      show InStep q.after _
      have hrange : q.before.core.InRange := hwf.toInRange
      have hrun : q.before.status = .running :=
        hstatus.trans (Core.verdict_eq_running_iff.2 ⟨hexit, hpc⟩)
      cases q.ends hrange hrun with
      | failed f h =>
        have hs := Core.step_of_obstacle (Moment.inRange_ticked hrange) pad.snapshot h.obstacle
        rw [Core.Loop.next_of_error hs, h.after_eq]
        exact .raised rfl
      | completed d c h =>
        have hs := h.step_eq hrange hrun
        have hwf' := (hwf.withTimers (m.core.timers.tickAt (clock 0) (clock 1))).step pad.snapshot
        rw [show ({ m.core with timers := _ } : Core).step pad.snapshot = _ from hs] at hwf'
        rw [Core.Loop.next_of_ok hs, h.after_eq]
        split
        next hexit' => exact .exited (Core.verdict_of_exited hexit')
        next hexit' => exact .going hwf' (Bool.eq_false_iff.2 hexit') rfl
    -- the machine has halted already, and the loop raises the same error only now
    · have hbeyond := Int.not_le.1 hpc
      have hhalted := hstatus.trans (Core.verdict_of_beyond hexit hbeyond)
      rw [Core.Loop.next_of_beyond hbeyond,
        stepOn_of_status (m := { m with keypad := pad }) hhalted]
      exact .raised hhalted
  | exited hstatus =>
    rw [stepOn_of_status (m := { m with keypad := pad }) hstatus]
    exact .exited hstatus
  | raised hstatus =>
    rw [stepOn_of_status (m := { m with keypad := pad }) hstatus]
    exact .raised hstatus

theorem InStep.core_eq {l : Core.Loop} {c : Core} (h : InStep m l)
    (hl : l = .going c ∨ l = .exited c) : m.core = c := by
  rcases hl with rfl | rfl <;> cases h <;> rfl

/-- What the loop tells about the status of the machine while it goes on. -/
theorem InStep.status_of_going {c : Core} (h : InStep m (.going c)) :
    (c.registers.pc ≤ 0xFFF → m.status = .running) ∧
      (0xFFF < c.registers.pc →
        m.status = .halted (.fault (.outOfBounds c.registers.pc 2))) := by
  cases h with
  | going hwf hexit hstatus =>
    exact ⟨fun hpc => hstatus.trans (Core.verdict_eq_running_iff.2 ⟨hexit, hpc⟩),
      fun hpc => hstatus.trans (Core.verdict_of_beyond hexit hpc)⟩

/-- The statuses of a machine, each with what the loop has come to. -/
theorem InStep.status_cases {l : Core.Loop} (h : InStep m l) :
    (m.status = .running ∧ ∃ c, l = .going c ∧ c.registers.pc ≤ 0xFFF) ∨
      (m.status = .halted .exit ∧ ∃ c, l = .exited c) ∨
      ∃ f, m.status = .halted (.fault f) ∧ ((∃ c, l = .raised (.fault f) c) ∨
        ∃ c, l = .going c ∧ 0xFFF < c.registers.pc ∧ f = .outOfBounds c.registers.pc 2) := by
  cases l with
  | going c =>
    by_cases hpc : c.registers.pc ≤ 0xFFF
    · exact .inl ⟨h.status_of_going.1 hpc, c, rfl, hpc⟩
    · have hbeyond := Int.not_le.1 hpc
      exact .inr (.inr ⟨_, h.status_of_going.2 hbeyond, .inr ⟨c, rfl, hbeyond, rfl⟩⟩)
  | exited c =>
    cases h with
    | exited hstatus => exact .inr (.inl ⟨hstatus, _, rfl⟩)
  | raised s c =>
    cases h with
    | raised hstatus => exact .inr (.inr ⟨_, hstatus, .inl ⟨c, rfl⟩⟩)

theorem InStep.running_iff {l : Core.Loop} (h : InStep m l) :
    m.status = .running ↔ ∃ c, l = .going c ∧ c.registers.pc ≤ 0xFFF := by
  constructor
  · intro hrun
    obtain ⟨-, hl⟩ | ⟨hs, -⟩ | ⟨f, hs, -⟩ := h.status_cases
    · exact hl
    · cases hrun.symm.trans hs
    · cases hrun.symm.trans hs
  · rintro ⟨c, rfl, hpc⟩
    exact h.status_of_going.1 hpc

theorem InStep.halted_exit_iff {l : Core.Loop} (h : InStep m l) :
    m.status = .halted .exit ↔ ∃ c, l = .exited c := by
  constructor
  · intro hexit
    obtain ⟨hs, -⟩ | ⟨-, hl⟩ | ⟨f, hs, -⟩ := h.status_cases
    · cases hexit.symm.trans hs
    · exact hl
    · cases hexit.symm.trans hs
  · rintro ⟨c, rfl⟩
    cases h with
    | exited hstatus => exact hstatus

/-! ## Runs -/

/-- The machine and the loop start from the same loaded state and stay in step. -/
theorem inStep_after (m : Machine) {rom : List UInt8} (hrom : rom.length ≤ programCapacity)
    (start clock : Clock) (pads : Nat → Keypad) (n : Nat) :
    InStep ((m.loadOn start rom).value.1.stepped clock pads n)
      (.after clock (fun n => (pads n).snapshot) (m.loadOn start rom).value.1.core n) := by
  induction n with
  | zero =>
    have hwf : (m.loadOn start rom).value.1.WellFormed := WellFormed.install _ rom
    have hload := loadOn_of_le (m := m) start hrom
    have hexit : (m.loadOn start rom).value.1.core.exited = false := by rw [hload]; rfl
    have hrun : (m.loadOn start rom).value.1.status = .running := by rw [hload]; rfl
    refine .going hwf.core hexit (hrun.trans ?_)
    exact (Core.verdict_eq_running_iff.2 ⟨hexit, hwf.pc_le hrun⟩).symm
  | succ n ih => exact ih.next (clock.skip (2 * n)) (pads n)

/-- What a machine has in common with the loop, by the number of steps and rounds. -/
structure Refines (machine : Nat → Machine) (loop : Nat → Core.Loop) : Prop where
  /-- After an instruction that completed, all that belongs to the processor is the same. -/
  core_eq : ∀ n c, loop n = .going c ∨ loop n = .exited c → (machine n).core = c
  /-- The machine runs as long as the loop goes on inside the memory. -/
  running_iff : ∀ n, (machine n).status = .running ↔
    ∃ c, loop n = .going c ∧ c.registers.pc ≤ 0xFFF
  /-- The machine halts with an exit exactly when the loop exits. -/
  exit_iff : ∀ n, (machine n).status = .halted .exit ↔ ∃ c, loop n = .exited c
  /-- The error of a round inside the memory halts the machine in the same step. -/
  fault_inside : ∀ n c s c', loop n = .going c → loop (n + 1) = .raised s c' →
    c.registers.pc ≤ 0xFFF →
      ∃ f, s = .fault f ∧ (machine n).status = .running ∧
        (machine (n + 1)).status = .halted (.fault f)
  /-- The error of a round outside the memory has halted the machine one step earlier. -/
  fault_outside : ∀ n c s c', loop n = .going c → loop (n + 1) = .raised s c' →
    0xFFF < c.registers.pc →
      ∃ f k, s = .fault f ∧ n = k + 1 ∧ (machine k).status = .running ∧
        (machine n).status = .halted (.fault f)
  /-- The machine halts for nothing else. -/
  halted : ∀ n cause, (machine n).status = .halted cause → cause = .exit ∨
    ∃ f, cause = .fault f ∧ ∃ k c c', loop k = .going c ∧ loop (k + 1) = .raised (.fault f) c' ∧
      (k < n ∨ k = n ∧ 0xFFF < c.registers.pc)

/-- The machine and the loop go through the same rounds, each with the keys that the keypad of the
machine shows. -/
theorem refines_after (m : Machine) {rom : List UInt8} (hrom : rom.length ≤ programCapacity)
    (start clock : Clock) (pads : Nat → Keypad) :
    Refines ((m.loadOn start rom).value.1.stepped clock pads)
      (.after clock (fun n => (pads n).snapshot) (m.loadOn start rom).value.1.core) := by
  have hsim := inStep_after m hrom start clock pads
  constructor
  case core_eq => exact fun n c => (hsim n).core_eq
  case running_iff => exact fun n => (hsim n).running_iff
  case exit_iff => exact fun n => (hsim n).halted_exit_iff
  case fault_inside =>
    intro n c s c' hn hnext hpc
    have h := hsim n
    have hs := hsim (n + 1)
    rw [hn] at h
    rw [hnext] at hs
    cases hs with
    | raised hstatus => exact ⟨_, rfl, h.status_of_going.1 hpc, hstatus⟩
  case fault_outside =>
    intro n c s c' hn hnext hpc
    have h := hsim n
    rw [hn] at h
    rw [Core.Loop.after, hn, Core.Loop.next_of_beyond hpc] at hnext
    cases hnext
    cases n with
    | zero =>
      -- a machine runs right after a program was loaded, so its first word is inside the memory
      have hrun : (m.loadOn start rom).value.1.status = .running := by
        rw [loadOn_of_le start hrom]
        rfl
      cases hrun.symm.trans (h.status_of_going.2 hpc)
    | succ k =>
      -- the round before went on, so it began inside the memory and the machine still ran
      obtain ⟨b, hb, hpcb⟩ := Core.Loop.going_of_next hn
      exact ⟨_, k, rfl, rfl, (hsim k).running_iff.2 ⟨b, hb, hpcb⟩, h.status_of_going.2 hpc⟩
  case halted =>
    intro n cause hcause
    obtain ⟨hs, -⟩ | ⟨hs, -⟩ | ⟨f, hs, ⟨c, hc⟩ | ⟨c, hc, hpc, rfl⟩⟩ := (hsim n).status_cases
    · cases hcause.symm.trans hs
    · cases hcause.symm.trans hs
      exact .inl rfl
    · cases hcause.symm.trans hs
      obtain ⟨k, hk, b, hb, hnext⟩ := Core.Loop.exists_round_of_raised hc
      exact .inr ⟨f, rfl, k, b, c, hb, hnext, .inl hk⟩
    · cases hcause.symm.trans hs
      refine .inr ⟨_, rfl, n, c, c.tickedOn (clock.skip (2 * n)), hc, ?_, .inr ⟨rfl, hpc⟩⟩
      rw [Core.Loop.after, hc, Core.Loop.next_of_beyond hpc]

/-- **A machine with a loaded program refines the loop around the bare processor**, whatever keys
are down in each step and however the clock moves, also between the two timers. -/
theorem stepped_refines_loop (m : Machine) (rom : List UInt8)
    (hrom : rom.length ≤ programCapacity) (clock : Clock) (keys : Nat → Keys) :
    (∃ pads : Nat → Keypad, ∀ n, (pads n).snapshot = keys n) ∧
      ∀ pads : Nat → Keypad, (∀ n, (pads n).snapshot = keys n) →
        Refines ((m.loadOn clock rom).value.1.stepped clock.later pads)
          (.after clock.later keys (m.loadOn clock rom).value.1.core) := by
  constructor
  · exact ⟨_, fun n => (Keypad.exists_snapshot_eq (keys n)).choose_spec⟩
  · intro pads hpads
    obtain rfl : (fun n => (pads n).snapshot) = keys := funext hpads
    exact refines_after m hrom clock clock.later pads

/-- A return at the start of a program halts the machine in the step that raises its error, on a
clock that shows a later time whenever it is looked at. -/
theorem stepped_return_refines_loop :
    [(0x00 : UInt8), 0xEE].length ≤ programCapacity ∧
      (stepped (Clock.later Float.ofNat) (fun _ => .ofBindings [])
        ((sample []).loadOn Float.ofNat [0x00, 0xEE]).value.1 1).status =
          .halted (.fault (.stackEmpty 0x200)) := by
  have hfit : [(0x00 : UInt8), 0xEE].length ≤ programCapacity := by decide
  have hload := loadOn_of_le (m := sample []) Float.ofNat hfit
  have hraise : Core.Loop.after (Clock.later Float.ofNat)
      (fun _ => (Keypad.ofBindings []).snapshot)
      ((sample []).loadOn Float.ofNat [0x00, 0xEE]).value.1.core 1 =
        .raised (.fault (.stackEmpty 0x200))
          (((sample []).loadOn Float.ofNat [0x00, 0xEE]).value.1.core.tickedOn
            ((Clock.later Float.ofNat).skip (2 * 0))) := by
    rw [hload]
    exact Core.Loop.next_of_error (Core.step_start_return _ _ _)
  obtain ⟨-, hrefines⟩ := stepped_refines_loop (sample []) [0x00, 0xEE] hfit Float.ofNat
    (fun _ => (Keypad.ofBindings []).snapshot)
  obtain ⟨f, hf, -, hs⟩ :=
    (hrefines (fun _ => .ofBindings []) fun _ => rfl).fault_inside 0 _ _ _ rfl hraise
      (by rw [hload]; decide)
  cases hf
  exact ⟨hfit, hs⟩

end Machine

end SuperChip
