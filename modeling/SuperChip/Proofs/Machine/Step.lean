import SuperChip.Machine
import SuperChip.Proofs.Core.Flow

/-!
# What a step does to a machine

- `Core.verdict`: what a completed instruction means for the machine.
- `Machine.entry`, `Machine.noted`: the record of a step, and the machine that keeps it.
- `StepSpec`: the three ways that a step ends; `stepSpec`: **as long as the processor is in range
  there is no other**.
-/

namespace SuperChip

/-- What a completed instruction means for the machine. -/
def Core.verdict (c : Core) : Status :=
  if c.exited then .halted .exit
  else if 0xFFF < c.registers.pc then .halted (.fault (.outOfBounds c.registers.pc 2))
  else .running

/-- The program ended itself, or left the memory, or goes on. -/
theorem Core.verdict_cases (c : Core) :
    (c.exited = true ∧ c.verdict = .halted .exit) ∨
      (c.exited = false ∧ 0xFFF < c.registers.pc ∧
        c.verdict = .halted (.fault (.outOfBounds c.registers.pc 2))) ∨
      (c.exited = false ∧ c.registers.pc ≤ 0xFFF ∧ c.verdict = .running) := by
  unfold verdict
  cases hexit : c.exited with
  | true => exact .inl ⟨rfl, rfl⟩
  | false =>
    by_cases hpc : 0xFFF < c.registers.pc
    · exact .inr (.inl ⟨rfl, hpc, if_pos hpc⟩)
    · exact .inr (.inr ⟨rfl, Int.not_lt.1 hpc, if_neg hpc⟩)

/-- A machine goes on as long as its program did not end and did not leave the memory. -/
theorem Core.verdict_eq_running_iff {c : Core} :
    c.verdict = .running ↔ c.exited = false ∧ c.registers.pc ≤ 0xFFF := by
  obtain ⟨hexit, hv⟩ | ⟨hexit, hpc, hv⟩ | ⟨hexit, hpc, hv⟩ := c.verdict_cases
  · simp [hexit, hv]
  · simp [hexit, hv, Int.not_le.2 hpc]
  · simp [hexit, hv, hpc]

theorem Core.verdict_of_exited {c : Core} (h : c.exited = true) : c.verdict = .halted .exit := by
  rw [verdict, if_pos h]

theorem Core.verdict_of_beyond {c : Core} (h : c.exited = false) (hpc : 0xFFF < c.registers.pc) :
    c.verdict = .halted (.fault (.outOfBounds c.registers.pc 2)) := by
  rw [verdict, h, if_neg Bool.false_ne_true, if_pos hpc]

namespace Machine

variable (m : Machine) (now : Float)

/-- A machine that is not halted runs. -/
theorem isHalted_eq_false_iff : m.isHalted = false ↔ m.status = .running := by
  unfold isHalted
  cases m.status <;> simp [Status.isHalted]

variable {m} in
theorem isHalted_of_status {cause : Cause} (h : m.status = .halted cause) : m.isHalted := by
  rw [isHalted, h]
  rfl

/-! ## The parts of a step -/

/-- The record of a step that began with the registers `before` and led to this machine. -/
def entry (before : Registers) (instruction : Option Decoded) (error : Option Fault) :
    Trace.Entry :=
  .ofStep before (instruction.map Decoded.word) ((instruction.map Decoded.text).getD "")
    m.core.timers.delay.value m.core.timers.sound.value m.core.waiting m.isHalted
    ((error.map Fault.name).getD "")

/-- The machine with the record of a step in its trace, if it has one. -/
def noted (before : Registers) (instruction : Option Decoded) (error : Option Fault) : Machine :=
  { m with trace := m.trace.map (·.record (m.entry before instruction error)) }

/-- Recording a step changes the trace only. -/
theorem value_record (before : Registers) (instruction : Option Decoded) (error : Option Fault) :
    (m.record before instruction error).value = m.noted before instruction error := by
  unfold record noted
  -- without a trace nothing is recorded, and there is nothing to map over either
  obtain ⟨core, keypad, trace, status, program, steps⟩ := m
  cases trace <;> rfl

variable {m}

/-- A running machine is halted by its cause. -/
theorem value_stop (h : m.status = .running) (cause : Cause) :
    (m.stop cause).value = { m with status := .halted cause } := by
  rw [stop, (m.isHalted_eq_false_iff).2 h]
  rfl

theorem value_fail (h : m.status = .running) (f : Fault) :
    (m.fail f).value = { m with status := .halted (.fault f) } :=
  value_stop h (.fault f)

/-- Settling a completed instruction passes the verdict on it. -/
theorem settle_eq (h : m.status = .running) :
    m.settle.1.value = { m with status := m.core.verdict } ∧
      m.settle.2 = m.core.verdict.fault? := by
  unfold settle Core.verdict
  cases m.core.exited with
  | true => exact ⟨value_stop h .exit, rfl⟩
  | false =>
    by_cases hpc : 0xFFF < m.core.registers.pc
    · have hlast : Ram.lastAddress < m.core.registers.pc := hpc
      simp only [Bool.false_eq_true, if_false, if_pos hpc, if_pos hlast]
      exact ⟨value_fail h _, rfl⟩
    · have hlast : ¬ Ram.lastAddress < m.core.registers.pc := hpc
      simp only [Bool.false_eq_true, if_false, if_neg hpc, if_neg hlast, ← h]
      exact ⟨rfl, by rw [h]; rfl⟩

/-! ## The ways that a step ends -/

variable (m) in
/-- What a step makes of a machine, and what the host is told. -/
inductive StepSpec : Machine → StepResult → Prop
  | halted (h : m.isHalted) : StepSpec m ⟨m.status, none, false, m.status.fault?⟩
  | failed (h : m.status = .running) (f : Fault)
      (hs : (m.core.ticked now).step m.keypad.snapshot = (.error (.fault f), m.core.ticked now)) :
      StepSpec
        ({ m with core := m.core.ticked now, status := .halted (.fault f) }.noted
          m.core.registers none (some f))
        ⟨.halted (.fault f), none, false, some f⟩
  | completed (h : m.status = .running) (d : Decoded) (c : Core)
      (hs : (m.core.ticked now).step m.keypad.snapshot = (.ok d, c)) :
      StepSpec
        ({ m with core := c, status := c.verdict, steps := m.steps + 1 }.noted
          m.core.registers (some d) c.verdict.fault?)
        ⟨c.verdict, some d, c.waiting && c.verdict.fault?.isNone, c.verdict.fault?⟩

/-- A halted machine stays as it is. -/
theorem stepAt_of_halted (h : m.isHalted) (delay sound : Float) :
    m.stepAt delay sound = ⟨m, .ok ⟨m.status, none, false, m.status.fault?⟩, []⟩ := by
  rw [stepAt, if_pos h]

/-- A running machine ticks and proceeds. -/
theorem stepAt_of_running (h : m.status = .running) (delay sound : Float) :
    m.stepAt delay sound = proceed (m.tickAt delay sound) := by
  rw [stepAt, (m.isHalted_eq_false_iff).2 h, if_neg Bool.false_ne_true]

theorem step_of_halted (h : m.isHalted) :
    m.step now = ⟨m, .ok ⟨m.status, none, false, m.status.fault?⟩, []⟩ :=
  stepAt_of_halted h now now

/-- An instruction that meets a fault halts the machine. -/
theorem proceed_of_fault {t : Observed Machine} (h : t.value.status = .running) {f : Fault}
    {c : Core} (hs : t.value.core.step t.value.keypad.snapshot = (.error (.fault f), c)) :
    (proceed t).machine =
        { t.value with core := c, status := .halted (.fault f) }.noted
          t.value.core.registers none (some f) ∧
      (proceed t).result = .ok ⟨.halted (.fault f), none, false, some f⟩ := by
  have hfail : ({ t.value with core := c }.fail f).value =
      { t.value with core := c, status := .halted (.fault f) } :=
    value_fail (m := { t.value with core := c }) h f
  constructor
  · simp only [proceed, hs, value_record, hfail]
  · simp only [proceed, hs, value_record, hfail]
    rfl

/-- An instruction that completes is counted, and the machine takes over the verdict on it. -/
theorem proceed_of_completed {t : Observed Machine} (h : t.value.status = .running) {d : Decoded}
    {c : Core} (hs : t.value.core.step t.value.keypad.snapshot = (.ok d, c)) :
    (proceed t).machine =
        { t.value with core := c, status := c.verdict, steps := t.value.steps + 1 }.noted
          t.value.core.registers (some d) c.verdict.fault? ∧
      (proceed t).result =
        .ok ⟨c.verdict, some d, c.waiting && c.verdict.fault?.isNone, c.verdict.fault?⟩ := by
  obtain ⟨hsettled, herror⟩ :=
    settle_eq (m := { t.value with core := c, steps := t.value.steps + 1 }) h
  constructor
  · simp only [proceed, hs, value_record, hsettled, herror]
  · simp only [proceed, hs, value_record, hsettled, herror]
    rfl

/-- An instruction that cannot be told the end of leaves the machine running without a result. -/
theorem proceed_of_stop {t : Observed Machine} {s : Stop} {c : Core} (hfault : ∀ f, s ≠ .fault f)
    (hs : t.value.core.step t.value.keypad.snapshot = (.error s, c)) :
    (proceed t).machine = { t.value with core := c } ∧ (proceed t).result = .error s := by
  cases s with
  | fault f => exact absurd rfl (hfault f)
  | _ => constructor <;> simp only [proceed, hs]

/-- However an instruction ends, its core is the machine's from then on, and the keypad and the
program stay as they are. -/
theorem exists_proceed_eq {t : Observed Machine} (h : t.value.status = .running) :
    ∃ trace status steps, (proceed t).machine =
      { t.value with
        core := (t.value.core.step t.value.keypad.snapshot).2
        trace := trace
        status := status
        steps := steps } := by
  cases hs : t.value.core.step t.value.keypad.snapshot with
  | mk outcome c =>
    cases outcome with
    | ok d => exact ⟨_, _, _, (proceed_of_completed h hs).1⟩
    | error s =>
      cases s with
      | fault f => exact ⟨_, _, _, (proceed_of_fault h hs).1⟩
      | _ => exact ⟨_, _, _, (proceed_of_stop (by simp) hs).1⟩

/-- A step of a running machine whose instruction meets a fault. -/
theorem step_of_fault (h : m.status = .running) {f : Fault} {c : Core}
    (hs : (m.core.ticked now).step m.keypad.snapshot = (.error (.fault f), c)) :
    (m.step now).machine =
        { m with core := c, status := .halted (.fault f) }.noted m.core.registers none (some f) ∧
      (m.step now).result = .ok ⟨.halted (.fault f), none, false, some f⟩ := by
  rw [step, stepAt_of_running h]
  exact proceed_of_fault (t := m.tickAt now now) h hs

/-- A step of a running machine whose instruction completes. -/
theorem step_of_completed (h : m.status = .running) {d : Decoded} {c : Core}
    (hs : (m.core.ticked now).step m.keypad.snapshot = (.ok d, c)) :
    (m.step now).machine =
        { m with core := c, status := c.verdict, steps := m.steps + 1 }.noted
          m.core.registers (some d) c.verdict.fault? ∧
      (m.step now).result =
        .ok ⟨c.verdict, some d, c.waiting && c.verdict.fault?.isNone, c.verdict.fault?⟩ := by
  rw [step, stepAt_of_running h]
  exact proceed_of_completed (t := m.tickAt now now) h hs

/-- However a step ends, its core is that of the instruction. -/
theorem core_step (h : m.status = .running) :
    (m.step now).machine.core = ((m.core.ticked now).step m.keypad.snapshot).2 := by
  obtain ⟨trace, status, steps, hproceed⟩ := exists_proceed_eq (t := m.tickAt now now) h
  rw [step, stepAt_of_running h, hproceed]
  rfl

/-- **A step of a machine whose processor is in range gives a result, in one of three ways.** -/
theorem stepSpec (h : m.core.InRange) :
    ∃ r, (m.step now).result = .ok r ∧ StepSpec m now (m.step now).machine r := by
  cases hstatus : m.status with
  | halted cause =>
    have hh := isHalted_of_status hstatus
    rw [step_of_halted now hh]
    exact ⟨_, rfl, .halted hh⟩
  | running =>
    obtain ⟨f, hs⟩ | ⟨d, -, -, hs⟩ := Core.step_cases (h.ticked now) m.keypad.snapshot
    · obtain ⟨hm, hr⟩ := step_of_fault now hstatus hs
      exact ⟨_, hr, hm ▸ .failed hstatus f hs⟩
    · obtain ⟨hm, hr⟩ := step_of_completed now hstatus hs
      exact ⟨_, hr, hm ▸ .completed hstatus d _ hs⟩

end Machine

end SuperChip
