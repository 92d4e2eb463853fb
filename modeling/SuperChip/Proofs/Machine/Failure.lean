import SuperChip.Proofs.Core.Fault
import SuperChip.Proofs.Machine.Moment

/-!
# Steps that fail

- `Core.name_of_obstacle?`: the kinds of the faults that a step can meet.
- `Machine.failed_step_is_atomic`: **a step that fails leaves the processor as it was, and changes
  nothing of the machine but its status, its timers and its trace**.

About `Chip8CPU.step` and `Machine.step`.
-/

namespace SuperChip

/-- The kinds of the faults that a step can meet. -/
def Core.faultNames : List String :=
  ["DecodeError", "StackOverflowError", "StackUnderflowError", "MemoryBoundsError"]

/-- What keeps an instruction from completing has one of the known names. -/
theorem Core.name_of_obstacle? {c : Core} {f : Fault} (h : c.obstacle? = some f) :
    f.name ∈ faultNames := by
  unfold obstacle? hindrance? Word.misfit at h
  simp only at h
  repeat' split at h
  all_goals cases h <;> simp [Fault.name, faultNames]

namespace Machine

/-- **A step that fails is atomic.** The processor is as it was, whichever check failed; of the
machine only the status, the timers and the trace change, each as told here. -/
theorem failed_step_is_atomic :
    (∀ (c c' : Core) (keys : Keys) (s : Stop), c.InRange → c.step keys = (.error s, c') →
      c' = c ∧ ∃ f, s = .fault f ∧ f.name ∈ Core.faultNames) ∧
    (∀ (setup : Setup) (m : Machine) (clock : Clock) (c' : Core) (s : Stop), MadeFrom setup m →
      m.status = .running →
      (m.core.tickedOn clock).step m.keypad.snapshot = (.error s, c') →
      ∃ f, s = .fault f ∧
        (m.stepOn clock).machine =
          { m with
            core := m.core.tickedOn clock
            status := .halted (.fault f)
            trace := m.trace.map (·.record (.ofStep m.core.registers none ""
              (m.core.tickedOn clock).timers.delay.value
              (m.core.tickedOn clock).timers.sound.value m.core.waiting true f.name)) } ∧
        (m.stepOn clock).result = .ok ⟨.halted (.fault f), none, false, some f⟩ ∧
        (m.stepOn clock).machine.status.fault? = some f ∧
        (m.stepOn clock).machine.status.reason? = some (f.name ++ ": " ++ f.message)) := by
  refine ⟨fun c c' keys s hrange hs => ?_, fun setup m clock c' s hmade hrun hs => ?_⟩
  · cases ho : c.obstacle? with
    | some f =>
      rw [Core.step_of_obstacle hrange keys ho] at hs
      cases hs
      exact ⟨rfl, f, rfl, Core.name_of_obstacle? ho⟩
    | none =>
      obtain ⟨d, -, hd⟩ := Core.step_of_no_obstacle hrange keys ho
      rw [hd] at hs
      cases hs
  · let q : Moment := ⟨m, clock⟩
    have hrange : q.before.core.InRange := hmade.keeps.core.toInRange
    cases q.ends hrange hrun with
    | failed f h =>
      have hfailed := Core.step_of_obstacle (Moment.inRange_ticked hrange) m.keypad.snapshot
        h.obstacle
      cases hfailed.symm.trans hs
      exact ⟨f, rfl, h.after_eq, h.result_eq, congrArg Status.fault? h.status_after,
        congrArg Status.reason? h.status_after⟩
    | completed d c h => cases (h.step_eq hrange hrun).symm.trans hs

/-- A return with nothing to return to. -/
theorem failed_step_of_sample :
    MadeFrom sampleSetup (sample [0x00, 0xEE]) ∧
      ((sample [0x00, 0xEE]).stepOn Float.ofNat).machine.status.reason? =
        some "StackUnderflowError: return with empty call stack at pc=0x200" ∧
      ∃ f, f.name ∈ Core.faultNames ∧
        ((sample [0x00, 0xEE]).stepOn Float.ofNat).result =
          .ok ⟨.halted (.fault f), none, false, some f⟩ := by
  have hmade := madeFrom_sample [0x00, 0xEE]
  let q : Moment := ⟨sample [0x00, 0xEE], Float.ofNat⟩
  have hrange : q.ticked.InRange := Moment.inRange_ticked hmade.keeps.core.toInRange
  have hs : q.ticked.step (sample [0x00, 0xEE]).keypad.snapshot =
      (.error (.fault (.stackEmpty 0x200)), q.ticked) := by
    show ((sample [0x00, 0xEE]).core.tickedOn Float.ofNat).step _ =
      (_, (sample [0x00, 0xEE]).core.tickedOn Float.ofNat)
    rw [sample_eq (by decide)]
    exact Core.step_start_return _ _ _
  obtain ⟨-, g, hg, hname⟩ := failed_step_is_atomic.1 _ _ _ _ hrange hs
  obtain ⟨f, hf, -, hr, -, hreason⟩ :=
    failed_step_is_atomic.2 _ _ Float.ofNat _ _ hmade (by rw [sample_eq (by decide)]; rfl) hs
  cases hf
  cases hg
  exact ⟨hmade, hreason.trans (by decide +kernel), _, hname, hr⟩

end Machine

end SuperChip
