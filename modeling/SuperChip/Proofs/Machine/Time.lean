import SuperChip.Proofs.Machine.TwoRuns

/-!
# Time

The timers count at the pace of a clock, so that two machines with other clocks or other rates soon
have other counts. A program can tell only by the instruction that reads the delay timer.

- `Machine.steppedOn`, `Machine.resultOn`: a machine that is stepped again and again, with new keys
  and on a new clock each time, and what the host is told.
- `Core.SameButTimers`, `Machine.SameButTime`: the same in everything but the timers.
- `Alike.stepAt_of_unread`: **one step on two clocks**, as long as the delay timer is not read.
- `Alike.steppedOn`: so many steps on two clocks.
- `time_enters_by_delay`: **until it reads the delay timer, a program behaves the same at every
  rate and on every clock**.

About `TimerPair.tick`, `op_ld_vx_dt`, `op_ld_dt_vx` and `op_ld_st_vx`.
-/

namespace SuperChip

/-- Whether an instruction reads the delay timer. -/
def Instruction.readsDelay : Instruction → Bool
  | ldFromDelay _ => true
  | _ => false

/-- Whether a step completed an instruction that reads the delay timer. -/
def StepResult.readsDelay (r : StepResult) : Bool := r.instruction.any (·.instruction.readsDelay)

namespace Core

/-- Two processors are the same but for their timers. -/
def SameButTimers (c c' : Core) : Prop := ∃ timers, c' = c.withDevices timers c.random

/-- The timers are hidden from all but the instruction that reads the delay. -/
theorem hides_sameButTimers : Hides SameButTimers where
  verdict := by
    rintro c _ ⟨timers, rfl⟩
    rfl
  waiting := by
    rintro c _ ⟨timers, rfl⟩
    rfl

variable {c c' : Core}

theorem sameButTimers_start (program : List UInt8) (timers timers' : Timers Float)
    (random : RandomSource) :
    SameButTimers (.start program timers random) (.start program timers' random) :=
  ⟨timers', rfl⟩

theorem SameButTimers.withTimers (h : c.SameButTimers c') (timers timers' : Timers Float) :
    SameButTimers { c with timers := timers } { c' with timers := timers' } := by
  obtain ⟨_, rfl⟩ := h
  exact ⟨timers', rfl⟩

/-- An instruction that does not read the delay timer does the same on both sides. -/
theorem SameButTimers.step (h : c.SameButTimers c') (keys : Keys)
    (hunread : ∀ d, c.peek = .ok d → d.instruction.readsDelay = false) :
    StepsAlike SameButTimers keys c c' := by
  obtain ⟨timers, rfl⟩ := h
  have hreads : c.ReadsAlike timers c.random := by
    intro d hd
    have hunread := hunread d hd
    cases hi : d.instruction with
    | ldFromDelay x =>
      rw [hi] at hunread
      cases hunread
    | rnd x mask => rfl
    | _ => trivial
  have hstep := step_withDevices keys hreads
  obtain ⟨-, hrandom⟩ := devices_step (c := c) keys
  constructor
  · rw [hstep]
  · rw [hstep, ← hrandom]
    exact ⟨_, rfl⟩

/-- A step completes the instruction that it comes to. -/
theorem peek_of_step {keys : Keys} {d : Decoded} (h : c.step keys = (.ok d, c')) :
    c.peek = .ok d := by
  unfold Core.step at h
  cases hpeek : c.peek with
  | error f =>
    rw [hpeek] at h
    cases h
  | ok d' =>
    rw [hpeek] at h
    dsimp only at h
    split at h
    · cases h
      rfl
    · cases h

/-- Reading the delay timer always succeeds. -/
theorem exists_step_of_readsDelay {d : Decoded} (hpeek : c.peek = .ok d)
    (hd : d.instruction.readsDelay = true) (keys : Keys) :
    ∃ after, c.step keys = (.ok d, after) := by
  cases hi : d.instruction with
  | ldFromDelay x =>
    simp only [step, hpeek, hi]
    exact ⟨_, rfl⟩
  | _ =>
    rw [hi] at hd
    cases hd

end Core

namespace Machine

/-- The machine after so many steps, before each of which the keypad gets a state, and each of
which looks at a clock of its own. -/
def steppedOn (m : Machine) (clocks : Nat → Clock) (pads : Nat → Keypad) : Nat → Machine
  | 0 => m
  | k + 1 => (stepOn { m.steppedOn clocks pads k with keypad := pads k } (clocks k)).machine

/-- What the host is told about the step after so many. -/
def resultOn (m : Machine) (clocks : Nat → Clock) (pads : Nat → Keypad) (k : Nat) :
    Except Stop StepResult :=
  (stepOn { m.steppedOn clocks pads k with keypad := pads k } (clocks k)).result

/-- Two machines agree on everything but the timers and the trace. -/
structure SameButTime (m m' : Machine) : Prop where
  registers : m.core.registers = m'.core.registers
  memory : m.core.memory = m'.core.memory
  screen : m.core.screen = m'.core.screen
  random : m.core.random = m'.core.random
  exited : m.core.exited = m'.core.exited
  waiting : m.core.waiting = m'.core.waiting
  status : m.status = m'.status
  steps : m.steps = m'.steps

variable {m m' : Machine}

/-- A step tells the host that it read the delay timer exactly if the instruction that it comes to
does so. -/
theorem result_readsDelay_iff {delay sound : Float} :
    (∃ r, (m.stepAt delay sound).result = .ok r ∧ r.readsDelay = true) ↔
      m.status = .running ∧ ∃ d, m.core.peek = .ok d ∧ d.instruction.readsDelay = true := by
  cases hstatus : m.status with
  | halted cause =>
    rw [stepAt_of_halted (isHalted_of_status hstatus)]
    constructor
    · rintro ⟨r, hr, hreads⟩
      cases hr
      cases hreads
    · rintro ⟨hrun, -⟩
      cases hrun
  | running =>
    rw [stepAt_of_running hstatus]
    have hticked : (m.tickAt delay sound).value.core.peek = m.core.peek := rfl
    constructor
    · rintro ⟨r, hr, hreads⟩
      refine ⟨rfl, ?_⟩
      cases hs : (m.tickAt delay sound).value.core.step m.keypad.snapshot with
      | mk outcome c =>
      cases outcome with
      | ok d =>
        rw [(proceed_of_completed (t := m.tickAt delay sound) hstatus hs).2] at hr
        cases hr
        exact ⟨d, hticked ▸ Core.peek_of_step hs, hreads⟩
      | error s =>
        -- a step that fails tells the host of no instruction
        cases s with
        | fault f =>
          rw [(proceed_of_fault (t := m.tickAt delay sound) hstatus hs).2] at hr
          cases hr
          cases hreads
        | _ =>
          rw [(proceed_of_stop (t := m.tickAt delay sound) (by simp) hs).2] at hr
          cases hr
    · rintro ⟨-, d, hpeek, hd⟩
      obtain ⟨c, hs⟩ := Core.exists_step_of_readsDelay (hticked.trans hpeek) hd m.keypad.snapshot
      exact ⟨_, (proceed_of_completed (t := m.tickAt delay sound) hstatus hs).2, hd⟩

/-- Machines that differ in their timers only are loaded alike. -/
theorem Alike.loadOn (h : m.Alike Core.SameButTimers m') (clock clock' : Clock)
    (rom : List UInt8) :
    (m.loadOn clock rom).value.1.Alike Core.SameButTimers (m'.loadOn clock' rom).value.1 := by
  refine (h.install rom fun kept => ?_).2
  obtain ⟨timers, hcore⟩ := h.core
  rw [hcore]
  exact Core.sameButTimers_start kept _ _ _

/-- **One step on two clocks**, of which the first does not read the delay timer. -/
theorem Alike.stepAt_of_unread (h : m.Alike Core.SameButTimers m')
    {delay sound delay' sound' : Float}
    (hunread : ∀ r, (m.stepAt delay sound).result = .ok r → r.readsDelay = false) :
    (m.stepAt delay sound).result = (m'.stepAt delay' sound').result ∧
      (m.stepAt delay sound).machine.Alike Core.SameButTimers
        (m'.stepAt delay' sound').machine := by
  refine h.stepAt Core.hides_sameButTimers fun hrun => ?_
  have hticked := h.core.withTimers (m.core.timers.tickAt delay sound)
    (m'.core.timers.tickAt delay' sound')
  refine ⟨hticked, hticked.step _ fun d hpeek => ?_⟩
  cases hd : d.instruction.readsDelay with
  | false => rfl
  | true =>
    -- the host would have been told
    obtain ⟨r, hr, hreads⟩ := result_readsDelay_iff.2 ⟨hrun, d, hpeek, hd⟩
    cases hreads.symm.trans (hunread r hr)

/-- They step alike for as long as the delay is not read. -/
theorem Alike.steppedOn (h : m.Alike Core.SameButTimers m') (clocks clocks' : Nat → Clock)
    (pads : Nat → Keypad) (n : Nat)
    (hunread : ∀ k < n, ∀ r, m.resultOn clocks pads k = .ok r → r.readsDelay = false) :
    (m.steppedOn clocks pads n).Alike Core.SameButTimers (m'.steppedOn clocks' pads n) ∧
      ∀ k < n, m.resultOn clocks pads k = m'.resultOn clocks' pads k := by
  induction n with
  | zero => exact ⟨h, fun k hk => absurd hk (Nat.not_lt_zero k)⟩
  | succ n ih =>
    obtain ⟨hbefore, hresults⟩ := ih fun k hk => hunread k (Nat.lt_succ_of_lt hk)
    -- both sides get the same keys before the step
    have hready : Alike Core.SameButTimers
        { m.steppedOn clocks pads n with keypad := pads n }
        { m'.steppedOn clocks' pads n with keypad := pads n } :=
      ⟨hbefore.core, rfl, hbefore.status, hbefore.program, hbefore.steps⟩
    obtain ⟨hresult, hnext⟩ := hready.stepAt_of_unread (hunread n (Nat.lt_succ_self n))
    refine ⟨hnext, fun k hk => ?_⟩
    obtain hk | rfl := Nat.lt_succ_iff_lt_or_eq.1 hk
    · exact hresults k hk
    · exact hresult

theorem Alike.sameButTime (h : m.Alike Core.SameButTimers m') : m.SameButTime m' := by
  obtain ⟨⟨timers, hcore⟩, -, hstatus, -, hsteps⟩ := h
  rw [Core.withDevices] at hcore
  constructor <;> first | assumption | rw [hcore]

/-- **Time enters a program only by the delay timer.** -/
theorem time_enters_by_delay {setup : Setup} {rate : Float} {printed : Bool} {power power' : Clock}
    {o o' : Observed Machine} (h : switchOn setup power printed = .ok o)
    (h' : switchOn { setup with rate := rate } power' printed = .ok o') (rom : List UInt8)
    (loading loading' : Clock) (clocks clocks' : Nat → Clock) (pads : Nat → Keypad) (n : Nat)
    (hunread : ∀ k < n, ∀ r,
      (o.value.loadOn loading rom).value.1.resultOn clocks pads k = .ok r →
        r.readsDelay = false) :
    ((o.value.loadOn loading rom).value.1.steppedOn clocks pads n).SameButTime
        ((o'.value.loadOn loading' rom).value.1.steppedOn clocks' pads n) ∧
      ∀ k < n, (o.value.loadOn loading rom).value.1.resultOn clocks pads k =
        (o'.value.loadOn loading' rom).value.1.resultOn clocks' pads k := by
  obtain ⟨-, trace, -, rfl⟩ := (switchOn_eq_ok_iff power).1 h
  obtain ⟨-, trace', -, rfl⟩ := (switchOn_eq_ok_iff power').1 h'
  -- both are switched on alike, and stay so when they are loaded
  have hon : Alike Core.SameButTimers ((ofSetup setup (power 0) trace).resetOn power.later).value
      ((ofSetup { setup with rate := rate } (power' 0) trace').resetOn power'.later).value :=
    ⟨Core.sameButTimers_start [] _ _ setup.random, rfl, rfl, rfl, rfl⟩
  obtain ⟨hlast, hresults⟩ :=
    (hon.loadOn loading loading' rom).steppedOn clocks clocks' pads n hunread
  exact ⟨hlast.sameButTime, hresults⟩

/-- A program that starts the tone, on a clock that stands still and, at another rate, on one that
has moved on. -/
theorem time_enters_by_delay_of_sample :
    let m := ((ofSetup sampleSetup 0 none).resetOn (.still 0)).value
    let m' := ((ofSetup { sampleSetup with rate := 100 } 5 none).resetOn (.still 5)).value
    ((m.loadOn (.still 0) [0xF0, 0x18]).value.1.steppedOn (fun _ => .still 0)
        (fun _ => .ofBindings []) 1).SameButTime
      ((m'.loadOn (.still 6) [0xF0, 0x18]).value.1.steppedOn (fun _ => .still 9)
        (fun _ => .ofBindings []) 1) := by
  intro m m'
  have hon : switchOn sampleSetup (.still 0) false = .ok _ :=
    (switchOn_eq_ok_iff _).2 ⟨by decide, none, rfl, rfl⟩
  have hon' : switchOn { sampleSetup with rate := 100 } (.still 5) false = .ok _ :=
    (switchOn_eq_ok_iff _).2 ⟨by decide, none, rfl, rfl⟩
  refine (time_enters_by_delay hon hon' [0xF0, 0x18] (.still 0) (.still 6) _ _ _ 1 ?_).1
  intro k hk r hr
  obtain rfl : k = 0 := Nat.lt_one_iff.1 hk
  rw [resultOn, stepOn] at hr
  cases hreads : r.readsDelay with
  | false => rfl
  | true =>
    obtain ⟨-, d, hpeek, hd⟩ := result_readsDelay_iff.1 ⟨r, hr, hreads⟩
    rw [steppedOn, loadOn_of_le _ (by decide), core_resetOn, Core.peek_start] at hpeek
    have hsound : Decoded.ofWord (Memory.wordOf 0xF0 0x18) = .ok ⟨0xF018, .ldSound 0⟩ := rfl
    cases hsound.symm.trans hpeek
    cases hd

end Machine

end SuperChip
