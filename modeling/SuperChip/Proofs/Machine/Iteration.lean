import Mathlib.Data.Nat.Count
import Mathlib.Logic.Function.Iterate
import SuperChip.Proofs.Machine.Moment

/-!
# Runs as steps

A run is a row of steps that all look at one reading of the clock. It breaks off where the machine
halts, which makes no difference, because a halted machine takes its steps without doing anything.

- `Machine.afterSteps`: a machine after so many steps.
- `Machine.stepsTaken`: how many of the first steps a machine takes while it runs.
- `WellFormed.runSteps_eq`: **a run is that many steps**, and counts those.
- `Machine.Raises`: the processor does not complete the next step; `WellFormed.steps_afterSteps` is
  what that means for the counter of a machine, which does not count such a step.
- `run_iterates_step`: **runs can be cut anywhere, and the counter tells how the last step ended**.

About `Machine.run`.
-/

namespace SuperChip

namespace Machine

variable (m : Machine) (now : Float)

/-- The machine after so many steps. -/
def afterSteps (count : Nat) : Machine := (fun m => (m.step now).machine)^[count] m

/-- How many of the first steps the machine takes while it runs. -/
def stepsTaken (count : Nat) : Nat :=
  Nat.count (fun k => (m.afterSteps now k).status = .running) count

/-- The processor does not complete the next step. -/
def Raises : Prop :=
  ∃ s, ((m.core.ticked now).step m.keypad.snapshot).1 = .error s

/-- The processor does not complete the last one of so many steps. -/
def LastRaises (count : Nat) : Prop := ∃ k, count = k + 1 ∧ (m.afterSteps now k).Raises now

/-! ## Steps in a row -/

theorem afterSteps_succ (count : Nat) :
    m.afterSteps now (count + 1) = (m.step now).machine.afterSteps now count :=
  Function.iterate_succ_apply _ _ _

/-- Steps are taken one after the other. -/
theorem afterSteps_add (a b : Nat) :
    m.afterSteps now (a + b) = (m.afterSteps now a).afterSteps now b := by
  rw [Nat.add_comm]
  exact Function.iterate_add_apply _ _ _ _

variable {m}

/-- A halted machine takes its steps without doing anything. -/
theorem afterSteps_of_halted (h : m.isHalted) (count : Nat) : m.afterSteps now count = m :=
  Function.iterate_fixed (congrArg Stepped.machine (step_of_halted now h)) count

/-- A halted machine takes no step. -/
theorem stepsTaken_of_halted (h : m.isHalted) (count : Nat) : m.stepsTaken now count = 0 := by
  refine (Nat.count_iff_forall_not).2 fun k _ hrun => ?_
  rw [afterSteps_of_halted now h, ← isHalted_eq_false_iff, h] at hrun
  cases hrun

theorem stepsTaken_succ (h : m.status = .running) (count : Nat) :
    m.stepsTaken now (count + 1) = (m.step now).machine.stepsTaken now count + 1 := by
  have hfirst : (m.afterSteps now 0).status = .running := h
  rw [stepsTaken, Nat.count_succ', if_pos hfirst]
  simp only [afterSteps_succ, stepsTaken]

/-- The steps that are taken add up. -/
theorem stepsTaken_add (a b : Nat) :
    m.stepsTaken now (a + b) = m.stepsTaken now a + (m.afterSteps now a).stepsTaken now b := by
  rw [stepsTaken, Nat.count_add]
  simp only [afterSteps_add, stepsTaken]

/-! ## A run takes them -/

/-- A run of a running machine is a step and the rest of the run. -/
theorem WellFormed.runSteps_succ (h : m.WellFormed) (hrun : m.status = .running) (limit : Nat) :
    (m.runSteps now (limit + 1)).machine = ((m.step now).machine.runSteps now limit).machine ∧
      (m.runSteps now (limit + 1)).taken =
        ((m.step now).machine.runSteps now limit).taken.map (· + 1) := by
  obtain ⟨r, hr, -⟩ := stepSpec now h.core.toInRange
  unfold Machine.runSteps
  rw [(m.isHalted_eq_false_iff).2 hrun, if_neg Bool.false_ne_true]
  simp only [hr]
  cases limit <;> exact ⟨rfl, rfl⟩

/-- **A run is that many steps**, of which it counts those that the machine takes while it runs. -/
theorem WellFormed.runSteps_eq (h : m.WellFormed) (limit : Nat) :
    (m.runSteps now limit).machine = m.afterSteps now limit ∧
      (m.runSteps now limit).taken = .ok (m.stepsTaken now limit) := by
  induction limit generalizing m with
  | zero => exact ⟨rfl, rfl⟩
  | succ limit ih =>
    cases hstatus : m.status with
    | halted cause =>
      have hhalted := isHalted_of_status hstatus
      rw [afterSteps_of_halted now hhalted, stepsTaken_of_halted now hhalted, Machine.runSteps,
        if_pos hhalted]
      exact ⟨rfl, rfl⟩
    | running =>
      obtain ⟨hmachine, htaken⟩ := h.runSteps_succ now hstatus limit
      obtain ⟨hrest, hcount⟩ := ih (h.step now)
      rw [hmachine, htaken, hrest, hcount, afterSteps_succ, stepsTaken_succ now hstatus]
      exact ⟨rfl, rfl⟩

/-! ## What the machine counts -/

/-- A step is counted unless the processor does not complete it, and then it halts the machine. -/
theorem WellFormed.steps_step (h : m.WellFormed) (hrun : m.status = .running) :
    (m.Raises now → (m.step now).machine.isHalted ∧ (m.step now).machine.steps = m.steps) ∧
      (¬ m.Raises now → (m.step now).machine.steps = m.steps + 1) := by
  obtain ⟨f, hs⟩ | ⟨d, -, -, hs⟩ :=
    Core.step_cases (h.core.toInRange.ticked now) m.keypad.snapshot
  · have hraises : m.Raises now := ⟨.fault f, congrArg Prod.fst hs⟩
    rw [(step_of_fault now hrun hs).1]
    exact ⟨fun _ => ⟨rfl, rfl⟩, fun hno => absurd hraises hno⟩
  · rw [(step_of_completed now hrun hs).1]
    refine ⟨?_, fun _ => rfl⟩
    rintro ⟨s, hraises⟩
    rw [hs] at hraises
    cases hraises

theorem lastRaises_zero : ¬ m.LastRaises now 0 := by
  rintro ⟨k, hk, -⟩
  cases hk

/-- The last one of several steps is the last one of those behind the first. -/
theorem lastRaises_succ_iff {count : Nat} (h : 0 < count) :
    m.LastRaises now (count + 1) ↔ (m.step now).machine.LastRaises now count := by
  obtain ⟨k, rfl⟩ := Nat.exists_eq_succ_of_ne_zero (Nat.ne_of_gt h)
  simp only [LastRaises, Nat.succ_eq_add_one, Nat.add_right_cancel_iff, exists_eq_left',
    afterSteps_succ]

theorem lastRaises_one_iff : m.LastRaises now 1 ↔ m.Raises now := by
  simp only [LastRaises, Nat.right_eq_add, exists_eq_left]
  rfl

/-- **The machine counts the steps that it takes**, without the last one if the processor does not
complete it. -/
theorem WellFormed.steps_afterSteps (h : m.WellFormed) (count : Nat) :
    (m.LastRaises now (m.stepsTaken now count) →
        (m.afterSteps now count).steps + 1 = m.steps + m.stepsTaken now count) ∧
      (¬ m.LastRaises now (m.stepsTaken now count) →
        (m.afterSteps now count).steps = m.steps + m.stepsTaken now count) := by
  -- the induction takes the first step off, so that the machine is another one each time
  induction count generalizing m with
  | zero => exact ⟨fun hlast => absurd hlast (lastRaises_zero now), fun _ => rfl⟩
  | succ count ih =>
    cases hstatus : m.status with
    | halted cause =>
      have hhalted := isHalted_of_status hstatus
      rw [afterSteps_of_halted now hhalted, stepsTaken_of_halted now hhalted]
      exact ⟨fun hlast => absurd hlast (lastRaises_zero now), fun _ => rfl⟩
    | running =>
      obtain ⟨hraises, hcounts⟩ := h.steps_step now hstatus
      rw [afterSteps_succ, stepsTaken_succ now hstatus]
      by_cases hfirst : m.Raises now
      · obtain ⟨hhalted, hsteps⟩ := hraises hfirst
        rw [afterSteps_of_halted now hhalted, stepsTaken_of_halted now hhalted, hsteps]
        exact ⟨fun _ => rfl, fun hno => absurd ((lastRaises_one_iff now).2 hfirst) hno⟩
      · obtain ⟨hlast, hnot⟩ := ih (h.step now)
        rw [hcounts hfirst] at hlast hnot
        rcases Nat.eq_zero_or_pos ((m.step now).machine.stepsTaken now count) with hzero | hpos
        · rw [hzero] at hnot ⊢
          refine ⟨fun hraises => absurd ((lastRaises_one_iff now).1 hraises) hfirst, fun _ => ?_⟩
          exact hnot (lastRaises_zero now)
        · rw [lastRaises_succ_iff now hpos]
          exact ⟨fun h => by have := hlast h; omega, fun h => by have := hnot h; omega⟩

/-! ## Everything together -/

/-- **A run is a row of steps.** It leaves the machine that so many steps leave, and returns how
many of them the machine took while it ran; two runs one after the other are one run; a run of no
steps does nothing. The counter of the machine grows by what the run returns, less one if the
processor did not complete the last step that was taken. -/
theorem run_iterates_step {setup : Setup} (hm : MadeFrom setup m) :
    (∀ a : Nat, (m.run now a).machine = m.afterSteps now a ∧
        (m.run now a).taken = .ok (m.stepsTaken now a)) ∧
      (∀ a b : Nat, ((m.run now a).machine.run now b).machine = (m.run now (a + b)).machine ∧
        ∃ i j, (m.run now a).taken = .ok i ∧ ((m.run now a).machine.run now b).taken = .ok j ∧
          (m.run now (a + b)).taken = .ok (i + j)) ∧
      (∀ limit ≤ 0, m.run now limit = ⟨m, .ok 0, []⟩) ∧
      ∀ (a n : Nat), (m.run now a).taken = .ok n →
        (m.LastRaises now n → (m.run now a).machine.steps + 1 = m.steps + n) ∧
          (¬ m.LastRaises now n → (m.run now a).machine.steps = m.steps + n) := by
  have hwf : m.WellFormed := hm.keeps.toWellFormed
  have hrun (a : Nat) := hwf.runSteps_eq now a
  refine ⟨hrun, fun a b => ?_, fun limit hlimit => ?_, fun a n hn => ?_⟩
  · have hfirst : (m.run now a).machine = m.afterSteps now a := (hrun a).1
    have hboth := hrun (a + b)
    have hwf' : (m.afterSteps now a).WellFormed := hfirst ▸ (hwf.runSteps now a).1
    obtain ⟨hmachine, htaken⟩ := hwf'.runSteps_eq now b
    rw [afterSteps_add, stepsTaken_add] at hboth
    rw [hfirst]
    exact ⟨hmachine.trans hboth.1.symm, _, _, (hrun a).2, htaken, hboth.2⟩
  · rw [run, Int.toNat_of_nonpos hlimit]
    rfl
  · obtain rfl : m.stepsTaken now a = n := Except.ok.inj ((hrun a).2.symm.trans hn)
    have hmachine : (m.run now a).machine = m.afterSteps now a := (hrun a).1
    rw [hmachine]
    exact hwf.steps_afterSteps now a

/-- A program that starts with a return: a run of three steps takes one, which is not counted. -/
theorem run_iterates_step_of_sample :
    MadeFrom sampleSetup (sample [0x00, 0xEE]) ∧
      ((sample [0x00, 0xEE]).run 1 (3 : Nat)).taken = .ok 1 ∧
      ((sample [0x00, 0xEE]).run 1 (3 : Nat)).machine.steps + 1 =
        (sample [0x00, 0xEE]).steps + 1 := by
  have hm := madeFrom_sample [0x00, 0xEE]
  have hrun : (sample [0x00, 0xEE]).status = .running := (starts_sample (by decide)).running
  have hraises : (sample [0x00, 0xEE]).Raises 1 := by
    rw [sample_eq (by decide)]
    exact ⟨_, congrArg Prod.fst (Core.step_start_return _ _ _)⟩
  have hhalted := ((hm.keeps.steps_step 1 hrun).1 hraises).1
  obtain ⟨hruns, -, -, hsteps⟩ := run_iterates_step 1 hm
  have htaken : ((sample [0x00, 0xEE]).run 1 (3 : Nat)).taken = .ok 1 := by
    rw [(hruns 3).2, stepsTaken_succ 1 hrun, stepsTaken_of_halted 1 hhalted]
  exact ⟨hm, htaken, (hsteps 3 1 htaken).1 ((lastRaises_one_iff 1).2 hraises)⟩

end Machine

end SuperChip
