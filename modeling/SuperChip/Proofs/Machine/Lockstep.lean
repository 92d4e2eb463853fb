import SuperChip.Proofs.Machine.Moment
import SuperChip.Proofs.Timer.Firing

/-!
# Two timers in lockstep

Each of the two timers of a machine keeps its own account of when it last fired, and a program sets
their counts one at a time. As long as the clock stands still while an action goes on, they fire
together all the same, whatever the clock shows between two actions.

- `Timers.Lockstep`: both timers fired last at one reading. `Lockstep.tick` is another reading that
  both look at; `lockstep_of_reached` is whatever a host does.
- `Timers.CountedDown`: both timers were counted down so many times.
- `Machine.onStillClocks`: a script in which the clock moves between the actions only.
- `counted_down_after`: **a script counts both timers down together**, at most once in a step, if
  neither is set meanwhile.
- `timers_go_in_lockstep`: **the timers of a machine never drift apart**.

About `TimerPair.tick` and `reset`.
-/

namespace SuperChip

/-- Whether an instruction sets a timer. -/
def Instruction.setsTimer : Instruction → Bool
  | ldDelay _ | ldSound _ => true
  | _ => false

namespace Timers

/-! ## Two timers -/

section

variable {τ : Type}

/-- Both timers go by the same period, fired last at the same reading, and found the same when they
last looked at the clock. -/
structure Lockstep (timers : Timers τ) : Prop where
  period : timers.delay.period = timers.sound.period
  lastFire : timers.delay.lastFire = timers.sound.lastFire
  fired : timers.delay.fired = timers.sound.fired

/-- Both timers were counted down so many times, and stay at zero. -/
structure CountedDown (count : Nat) (timers timers' : Timers τ) : Prop where
  delay : timers'.delay.value.toNat = timers.delay.value.toNat - count
  sound : timers'.sound.value.toNat = timers.sound.value.toNat - count

theorem CountedDown.refl (timers : Timers τ) : CountedDown 0 timers timers := ⟨rfl, rfl⟩

theorem CountedDown.trans {count count' : Nat} {timers timers' timers'' : Timers τ}
    (h : CountedDown count timers timers') (h' : CountedDown count' timers' timers'') :
    CountedDown (count + count') timers timers'' where
  delay := by rw [h'.delay, h.delay, Nat.sub_sub]
  sound := by rw [h'.sound, h.sound, Nat.sub_sub]

variable [Sub τ] [LE τ] [DecidableLE τ] {timers : Timers τ} {now : τ}

/-- Timers in lockstep are due at the same readings. -/
theorem Lockstep.due_eq (h : timers.Lockstep) : timers.delay.due now = timers.sound.due now := by
  unfold Timer.due
  simp only [h.period, h.lastFire]

/-- **Timers in lockstep fire together or not at all**, and are in lockstep afterwards. -/
theorem Lockstep.tick (h : timers.Lockstep) (now : τ) :
    (timers.tick now).Lockstep ∧ ∃ count ≤ 1, CountedDown count timers (timers.tick now) := by
  unfold Timers.tick
  cases hdelay : timers.delay.due now with
  | true =>
    have hsound : timers.sound.due now = true := h.due_eq.symm.trans hdelay
    rw [Timer.tick_of_due hdelay, Timer.tick_of_due hsound]
    refine ⟨⟨h.period, rfl, rfl⟩, 1, Nat.le_refl 1, ?_, ?_⟩
    · exact Timer.toNat_countDown _
    · exact Timer.toNat_countDown _
  | false =>
    have hsound : timers.sound.due now = false := h.due_eq.symm.trans hdelay
    rw [Timer.tick_of_not_due hdelay, Timer.tick_of_not_due hsound]
    exact ⟨⟨h.period, h.lastFire, rfl⟩, 0, Nat.zero_le 1, rfl, rfl⟩

end

variable {timers : Timers Float}

/-- Starting again at one reading puts the timers in lockstep. -/
theorem Lockstep.reset (h : timers.Lockstep) (now : Float) : (timers.reset now).Lockstep :=
  ⟨h.period, rfl, rfl⟩

/-- An instruction sets the count of a timer and nothing else. -/
theorem Lockstep.timersAfter (h : timers.Lockstep) (c : Core) :
    (c.timersAfter timers).Lockstep := by
  unfold Core.timersAfter
  cases c.peek with
  | error f => exact h
  | ok d =>
    show (d.instruction.timersAfter c timers).Lockstep
    cases d.instruction <;> exact ⟨h.period, h.lastFire, h.fired⟩

end Timers

namespace Machine

/-! ## Whatever a host does -/

variable {m : Machine} (now : Float)

/-- A step keeps the timers in lockstep, whether it completes or not. -/
theorem lockstep_step (h : m.core.timers.Lockstep) :
    (m.step now).machine.core.timers.Lockstep := by
  cases hstatus : m.status with
  | halted cause =>
    rw [step_of_halted now (isHalted_of_status hstatus)]
    exact h
  | running =>
    rw [core_step now hstatus, (Core.devices_step _).1]
    exact (h.tick now).1.timersAfter _

/-- A run takes one step after the other. -/
theorem lockstep_runSteps (h : m.core.timers.Lockstep) (limit : Nat) :
    (m.runSteps now limit).machine.core.timers.Lockstep := by
  induction limit generalizing m with
  | zero => exact h
  | succ limit ih =>
    have hnext := lockstep_step now h
    unfold runSteps
    split
    · exact h
    · cases hresult : (m.step now).result with
      | error e => simpa only [hresult] using hnext
      | ok r => simpa only [hresult] using ih hnext

theorem lockstep_load (h : m.core.timers.Lockstep) (program : List UInt8) :
    (m.load now program).value.1.core.timers.Lockstep := by
  unfold load install
  split
  · show (Machine.stop _ _).value.core.timers.Lockstep
    rw [core_stop]
    exact h.reset now
  · exact h.reset now

theorem core_withKeypad (attempt : Except Invalid Keypad) :
    (m.withKeypad attempt).core = m.core := by
  cases attempt <;> rfl

theorem timers_poke (address : Int) (bytes : List UInt8) :
    (m.poke address bytes).core.timers = m.core.timers := by
  unfold poke
  cases m.core.memory.write address bytes <;> rfl

theorem lockstep_perform (h : m.core.timers.Lockstep) (a : Action) :
    (m.perform now a).core.timers.Lockstep := by
  cases a with
  | load program => exact lockstep_load now h program
  | reset => exact h.reset now
  | step => exact lockstep_step now h
  | run limit => exact lockstep_runSteps now h limit.toNat
  | halt reason =>
    show (m.stop (.host reason)).value.core.timers.Lockstep
    rw [core_stop]
    exact h
  | press | release | pressKey | releaseKey =>
    rw [perform, core_withKeypad]
    exact h
  | releaseAll => exact h
  | poke address bytes =>
    rw [perform, timers_poke]
    exact h

/-- **Whatever a host does, the timers are in lockstep.** -/
theorem lockstep_of_reached (h : m.Reached) : m.core.timers.Lockstep := by
  induction h with
  | created h =>
    obtain ⟨-, trace, -, rfl⟩ := create_eq_ok_iff.1 h
    exact ⟨rfl, rfl, rfl⟩
  | performed _ now _ ih => exact lockstep_perform now ih _

/-! ## Counting down together -/

/-- A step that sets no timer leaves the timers as they were when they had looked at the clock. -/
theorem Moment.Ends.timers_after {q : Moment} (h : q.Ends)
    (hunset : ∀ d, q.completed? = some d → d.instruction.setsTimer = false) :
    q.after.core.timers = q.ticked.timers := by
  cases h with
  | failed f h => rw [h.core_after]
  | completed d c h =>
    have hd := hunset d h.completed?_eq_some
    have hdelay : c.timers.delay = q.ticked.timers.delay := by
      refine h.touches.delay fun x hx => ?_
      rw [hx] at hd
      cases hd
    have hsound : c.timers.sound = q.ticked.timers.sound := by
      refine h.touches.sound fun x hx => ?_
      rw [hx] at hd
      cases hd
    rw [h.core_after]
    show Timers.mk c.timers.delay c.timers.sound = _
    rw [hdelay, hsound]

/-- The script in which the clock moves between the actions only, given what it shows in each. -/
def onStillClocks (script : List (Float × Action)) : List (Clock × Action) :=
  script.map fun turn => (.still turn.1, turn.2)

theorem clock_of_mem_momentsOfRun {now : Float} {q : Moment} (limit : Nat)
    (h : q ∈ momentsOfRun limit (.still now) m) : q.clock = .still now := by
  induction limit generalizing m with
  | zero => cases h
  | succ limit ih =>
    unfold momentsOfRun at h
    by_cases hhalted : m.isHalted
    · rw [if_pos hhalted] at h
      cases h
    · rw [if_neg hhalted] at h
      rcases List.mem_cons.1 h with rfl | hrest
      · rfl
      · cases hresult : (m.stepOn (.still now)).result with
        | error e =>
          rw [hresult] at hrest
          cases hrest
        | ok r =>
          rw [hresult] at hrest
          exact ih hrest

/-- The clock stands still in every step of such a script. -/
theorem clock_of_mem_moments {script : List (Float × Action)} {q : Moment}
    (h : q ∈ m.moments (onStillClocks script)) : ∃ now, q.clock = .still now := by
  induction script generalizing m with
  | nil => cases h
  | cons turn rest ih =>
    obtain ⟨now, a⟩ := turn
    rcases List.mem_append.1 h with hfirst | hrest
    · refine ⟨now, ?_⟩
      cases a with
      | step =>
        by_cases hhalted : m.isHalted
        · rw [momentsOf_of_halted hhalted] at hfirst
          cases hfirst
        · rw [momentsOf_of_running (m.isHalted_eq_false_iff.1 (Bool.eq_false_iff.2 hhalted))]
            at hfirst
          rw [List.mem_singleton.1 hfirst]
      | run limit => exact clock_of_mem_momentsOfRun limit.toNat hfirst
      | _ => cases hfirst
    · exact ih hrest

/-- **A script without a restart counts both timers down together**, unless a step sets one of them:
at most once in each of the steps that the machine takes. -/
theorem counted_down_after {setup : Setup} (hm : MadeFrom setup m) (h : m.core.timers.Lockstep)
    {script : List (Float × Action)}
    (hkept : ∀ turn ∈ script, turn.2.restarts = false)
    (hunset : ∀ q ∈ m.moments (onStillClocks script), ∀ d, q.completed? = some d →
      d.instruction.setsTimer = false) :
    ∃ count ≤ (m.moments (onStillClocks script)).length,
      Timers.CountedDown count m.core.timers (m.after (onStillClocks script)).core.timers := by
  let Plain (q : Moment) : Prop := (∃ now, q.clock = .still now) ∧
    ∀ d, q.completed? = some d → d.instruction.setsTimer = false
  let P (n : Machine) (past : List Moment) : Prop :=
    MadeFrom setup n ∧ ((∀ q ∈ past, Plain q) → n.core.timers.Lockstep ∧
      ∃ count ≤ past.length, Timers.CountedDown count m.core.timers n.core.timers)
  suffices hP : P (m.after (onStillClocks script)) ([] ++ m.moments (onStillClocks script)) from
    (hP.2 fun q hq => ⟨clock_of_mem_moments hq, hunset q hq⟩).2
  have hkept' : ∀ turn ∈ onStillClocks script, turn.2.restarts = false := by
    intro turn hturn
    obtain ⟨earlier, hearlier, rfl⟩ := List.mem_map.1 hturn
    exact hkept earlier hearlier
  refine moments_preserve (P := P) (A := fun a => a.restarts = false) ?_ ?_
    ⟨hm, fun _ => ⟨h, 0, Nat.zero_le _, .refl _⟩⟩ hkept'
  · rintro past q hrun ⟨hn, hpast⟩
    refine ⟨hn.performed q.clock .step, fun hplain => ?_⟩
    obtain ⟨⟨now, hclock⟩, hunset⟩ := hplain q (List.mem_append_right _ (.head _))
    obtain ⟨hlockstep, count, hle, hcounted⟩ :=
      hpast fun p hp => hplain p (List.mem_append_left _ hp)
    obtain ⟨hnext, step, hstep, hticked⟩ := hlockstep.tick now
    have hafter : q.after.core.timers = q.before.core.timers.tick now := by
      rw [(q.ends hn.keeps.core.toInRange hrun).timers_after hunset, Moment.ticked, hclock]
      rfl
    rw [hafter, List.length_append, List.length_singleton]
    exact ⟨hnext, count + step, Nat.add_le_add hle hstep, hcounted.trans hticked⟩
  · rintro n past clock a ha hother ⟨hn, hpast⟩
    refine ⟨hn.performed clock a, fun hplain => ?_⟩
    -- what neither steps nor restarts the machine does not touch its timers
    obtain ⟨memory, hcore, -⟩ := exists_core_respond (m := n) clock hother ha
    rw [hcore]
    exact hpast hplain

/-- **The timers of a machine never drift apart**, as long as the clock moves between the actions of
its host only, whatever it shows. They fired last at the same reading and found the same when they
looked at the clock last. Until a restart, or a step that sets one of them, both are counted down
the same number of times, which is at most the number of steps that the machine takes. -/
theorem timers_go_in_lockstep (hm : m.Reached) :
    m.core.timers.Lockstep ∧
      ∀ script : List (Float × Action), (∀ turn ∈ script, turn.2.restarts = false) →
        (∀ q ∈ m.moments (onStillClocks script), ∀ d, q.completed? = some d →
          d.instruction.setsTimer = false) →
        ∃ count ≤ (m.moments (onStillClocks script)).length,
          Timers.CountedDown count m.core.timers (m.after (onStillClocks script)).core.timers := by
  obtain ⟨setup, hmade⟩ := madeFrom_of_reached hm
  have hlockstep := lockstep_of_reached hm
  refine ⟨hlockstep, fun script hkept hunset => ?_⟩
  exact counted_down_after hmade hlockstep hkept hunset

/-- A program that sets the delay timer to five in its first two instructions. While the third one
goes on, both timers fire, and the sound timer stays at zero. -/
theorem timers_go_in_lockstep_of_sample :
    ∃ m : Machine, m.Reached ∧ m.core.timers.delay.value = 5 ∧ m.core.timers.sound.value = 0 ∧
      m.core.timers.Lockstep ∧
      (∀ q ∈ m.moments (onStillClocks [(1, .step)]), ∀ d, q.completed? = some d →
        d.instruction.setsTimer = false) ∧
      ∃ count ≤ (m.moments (onStillClocks [(1, .step)])).length,
        Timers.CountedDown count m.core.timers
          (m.after (onStillClocks [(1, .step)])).core.timers := by
  let program : List UInt8 := [0x60, 0x05, 0xF0, 0x15, 0x00, 0x00]
  obtain ⟨n, hn⟩ : ∃ n, sample program = n := ⟨_, rfl⟩
  have hstart : n.StandsAt program 0 := hn ▸ standsAt_sample (by decide)
  have hzero : n.core.timers.sound.value = 0 := by
    rw [← hn, sample_eq (by decide)]
    rfl
  have hstays : ∀ (t : Timer Float) (now : Float), t.value = 0 → (t.tick now).value = 0 := by
    intro t now h
    unfold Timer.tick
    split
    · exact congrArg Timer.countDown h
    · exact h
  -- the first instruction puts five into a register, and the second one sets the delay timer to it
  have hword₁ : Decoded.ofWord (Memory.wordOf 0x60 0x05) = .ok ⟨0x6005, .ldByte 0 5⟩ := rfl
  have hword₂ : Decoded.ofWord (Memory.wordOf 0xF0 0x15) = .ok ⟨0xF015, .ldDelay 0⟩ := rfl
  have hword₃ : Decoded.ofWord (Memory.wordOf 0x00 0x00) = .ok ⟨0x0000, .sys 0⟩ := rfl
  have hstraight₁ : Straight (.ldByte 0 5) := ⟨fun _ => rfl, fun _ _ => rfl, rfl, by simp⟩
  have hstraight₂ : Straight (.ldDelay 0) := ⟨fun _ => rfl, fun _ _ => rfl, rfl, by simp⟩
  obtain ⟨hfirst, hsecond⟩ := hstart.next 0 (by decide) (by decide) hword₁ hstraight₁
  obtain ⟨hset, hthird⟩ := hsecond.next 0 (by decide) (by decide) hword₂ hstraight₂
  let m : Machine := (Moment.mk (Moment.mk n (.still 0)).after (.still 0)).after
  have hdelay : m.core.timers.delay.value = 5 := by
    rw [hset.core_after]
    show (Moment.mk n (.still 0)).after.core.registers.get 0 = 5
    rw [hfirst.core_after]
    exact Registers.get_set_self _ _ _
  have hsound : m.core.timers.sound.value = 0 := by
    rw [hset.core_after]
    refine hstays (Moment.mk n (.still 0)).after.core.timers.sound 0 ?_
    rw [hfirst.core_after]
    exact hstays n.core.timers.sound 0 hzero
  -- the third one sets no timer
  have hmoments : m.moments (onStillClocks [(1, .step)]) = [⟨m, .still 1⟩] := by
    show m.momentsOf (.still 1) .step ++ [] = _
    rw [momentsOf_of_running hthird.running]
    rfl
  have hunset : ∀ q ∈ m.moments (onStillClocks [(1, .step)]), ∀ d, q.completed? = some d →
      d.instruction.setsTimer = false := by
    intro q hq d hd
    rw [hmoments, List.mem_singleton] at hq
    have hcompleted := hthird.completed (.still 1) (by decide) (by decide) hword₃ rfl
    rw [hq, hcompleted.completed?_eq_some] at hd
    cases hd
    rfl
  obtain ⟨hlockstep, hcount⟩ := timers_go_in_lockstep hthird.reached
  exact ⟨m, hthird.reached, hdelay, hsound, hlockstep, hunset,
    hcount [(1, .step)] (by simp [Action.restarts]) hunset⟩

end Machine

end SuperChip
