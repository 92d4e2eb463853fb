import SuperChip.Proofs.Machine.TwoRuns

/-!
# Machines that differ in their traces

A trace watches a machine and is never looked at by it, so that two machines which differ in nothing
else go on to do so.

- `Machine.untraced`: the machine without its trace.
- `Machine.Twins`: two machines that differ in their traces only.
- `Twins.respond`: **both give the same answer to an action and go on to differ in their traces
  only**.
-/

namespace SuperChip

namespace Machine

/-- The machine without its trace. -/
def untraced (m : Machine) : Machine := { m with trace := none }

/-- Two machines that differ in their traces only. -/
structure Twins (m m' : Machine) : Prop extends m.Alike Eq m' where
  keypad : m.keypad = m'.keypad

/-- Equality of processors is kept by everything. -/
theorem congruence_eq : Core.Congruence Eq where
  verdict h := congrArg Core.verdict h
  waiting h := congrArg Core.waiting h
  tick := by
    rintro c _ rfl delay sound
    rfl
  step := by
    rintro c _ rfl keys
    exact ⟨rfl, rfl⟩
  start := by
    rintro c _ rfl program delay sound
    rfl
  memory h := congrArg Core.memory h
  put := by
    rintro c _ rfl memory
    rfl

variable {m m' : Machine}

/-- Twins are equal but for their traces. -/
theorem Twins.untraced_eq (h : m.Twins m') : m.untraced = m'.untraced := by
  obtain ⟨⟨hcore, -, hstatus, hprogram, hsteps⟩, hkeypad⟩ := h
  unfold untraced
  rw [hcore, hkeypad, hstatus, hprogram, hsteps]

theorem Twins.withKeypad (h : m.Twins m') (keypad : Keypad) :
    Twins { m with keypad := keypad } { m' with keypad := keypad } :=
  ⟨⟨h.core, rfl, h.status, h.program, h.steps⟩, rfl⟩

/-- Twins use their keypads alike. -/
theorem Twins.useKeypad (h : m.Twins m')
    (attempt : Except Invalid (Observed (Keypad × Bool))) :
    (m.useKeypad attempt).answer = (m'.useKeypad attempt).answer ∧
      (m.useKeypad attempt).machine.Twins (m'.useKeypad attempt).machine := by
  cases attempt with
  | ok used => exact ⟨rfl, h.withKeypad _⟩
  | error e => exact ⟨rfl, h⟩

/-- Both machines give the same answer to an action and go on to differ in their traces only. -/
theorem Twins.respond (h : m.Twins m') (clock : Clock) (a : Action) :
    (m.respond clock a).answer = (m'.respond clock a).answer ∧
      (m.respond clock a).machine.Twins (m'.respond clock a).machine := by
  cases ha : a.usesKeypad with
  | false =>
    obtain ⟨hanswer, hnext⟩ := h.toAlike.respond congruence_eq clock ha
    refine ⟨hanswer, hnext, ?_⟩
    rw [keypad_respond clock ha, keypad_respond clock ha, h.keypad]
  | true =>
    -- an action that uses the keypad sees nothing else of the machine
    cases a with
    | press | release | pressKey | releaseKey =>
      rw [Machine.respond, Machine.respond, h.keypad]
      exact h.useKeypad _
    | releaseAll =>
      rw [Machine.respond, Machine.respond, h.keypad]
      exact ⟨rfl, h.withKeypad _⟩
    | _ => cases ha

end Machine

end SuperChip
