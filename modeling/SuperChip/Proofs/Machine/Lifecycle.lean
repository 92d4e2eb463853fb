import SuperChip.Proofs.Machine.Moment

/-!
# From running to halted

A machine that runs is halted by an instruction that ends the program, by a fault or by its host,
and only a restart lets it run again. What it shows of this, the reason, the fault and the mark of
the processor that the program ended, always belongs to one and the same halt.

- `Machine.StandsStill`: nothing happens to a machine that is halted.
- `Machine.HaltedBy`: the last halt came about by an action of a kind.
- `status_after_of_halted`: **a halt stays as it is until the next restart**.
- `exists_tellsStep`: what is told about a step is what it left behind.
- `Machine.Settled`: the mark of the processor agrees with the status; `settled_after` is a whole
  script.
- `exited_iff`: **the processor is marked as ended just if a step ended the program**, which a host
  that gives the same reason does not bring about.
-/

namespace SuperChip

/-- The reason of a fault is its name with its message, which is no single word. -/
theorem Fault.describe_ne_exit (f : Fault) : f.describe ≠ "exit" := by
  intro h
  have hcolon : ':' ∈ f.describe.toList := by simp [describe]
  rw [h] at hcolon
  revert hcolon
  decide

/-- Only a program that ended itself gets the verdict that it did. -/
theorem Core.verdict_eq_exit_iff {c : Core} : c.verdict = .halted .exit ↔ c.exited = true := by
  obtain ⟨hexit, hv⟩ | ⟨hexit, -, hv⟩ | ⟨hexit, -, hv⟩ := c.verdict_cases <;> simp [hexit, hv]

/-- No verdict is the host's. -/
theorem Core.verdict_ne_host {c : Core} (reason : Option String) :
    c.verdict ≠ .halted (.host reason) := by
  obtain ⟨-, hv⟩ | ⟨-, -, hv⟩ | ⟨-, -, hv⟩ := c.verdict_cases <;> simp [hv]

theorem Action.restarts_of_takesSteps (a : Action) (ha : a.takesSteps = true) :
    a.restarts = false := by
  cases a with
  | step | run => rfl
  | _ => cases ha

namespace Machine

variable {m : Machine} {setup : Setup} {history later : List (Clock × Action)}

/-! ## What is shown of a halt -/

/-- A machine was halted by an action of a kind, and was not restarted since. -/
def HaltedBy (m : Machine) (kind : Action → Bool) (history : List (Clock × Action)) : Prop :=
  ∃ earlier clock a later, history = earlier ++ (clock, a) :: later ∧ kind a = true ∧
    (m.after earlier).status = .running ∧ (m.after (earlier ++ [(clock, a)])).isHalted ∧
    ∀ turn ∈ later, turn.2.restarts = false

/-- What is told about a step. -/
structure TellsStep (m : Machine) (clock : Clock) (r : StepResult) : Prop where
  status : r.status = (m.stepOn clock).machine.status
  error : r.error = (m.stepOn clock).machine.status.fault?
  /-- The instruction is one that the processor completed. -/
  instruction : ∀ d, r.instruction = some d ↔
    m.status = .running ∧
      ∃ c, (Moment.ticked ⟨m, clock⟩).step m.keypad.snapshot = (.ok d, c)
  /-- Such steps are counted, and no others are. -/
  steps : (m.stepOn clock).machine.steps = m.steps + if r.instruction.isSome then 1 else 0

/-- Nothing happens to a machine that is stepped or halted. -/
structure StandsStill (m : Machine) : Prop where
  step : ∀ clock, m.stepOn clock = ⟨m, .ok ⟨m.status, none, false, m.status.fault?⟩, []⟩
  run : ∀ clock limit, m.runOn clock limit = ⟨m, .ok 0, []⟩
  halt : ∀ reason, m.halt reason = .quiet m

/-! ## While a machine is halted -/

theorem standsStill (h : m.isHalted) : m.StandsStill where
  step clock := stepAt_of_halted h (clock 0) (clock 1)
  run clock limit := by
    unfold runOn
    cases limit.toNat with
    | zero => rfl
    | succ count => rw [runStepsOn, if_pos h]
  halt reason := by rw [halt, stop, if_pos h]

theorem StandsStill.respond (h : m.StandsStill) (clock : Clock) {a : Action}
    (ha : a.takesSteps = true) : (m.respond clock a).machine = m := by
  cases a with
  | step => exact congrArg Stepped.machine (h.step clock)
  | run limit => exact congrArg Ran.machine (h.run clock limit)
  | _ => cases ha

/-- **A halt stays as it is until the next restart.** -/
theorem status_after_of_halted (h : m.isHalted)
    (hkept : ∀ turn ∈ later, turn.2.restarts = false) : (m.after later).status = m.status := by
  have hnot : m.status ≠ .running := fun hrun => by simp [isHalted, hrun, Status.isHalted] at h
  refine after_preserve (P := fun n => n.status = m.status) (A := fun a => a.restarts = false)
    ?_ ?_ rfl hkept
  · intro q hrun hq
    exact absurd (hq.symm.trans hrun) hnot
  · intro n clock a ha hsteps hn
    obtain hsame | ⟨reason, -, hrun, -⟩ := status_respond (m := n) clock hsteps ha
    · exact hsame.trans hn
    · exact absurd (hn.symm.trans hrun) hnot

/-! ## What is told about a step -/

theorem exists_tellsStep (hrange : m.core.InRange) (clock : Clock) :
    ∃ r, (m.stepOn clock).result = .ok r ∧ m.TellsStep clock r := by
  cases hstatus : m.status with
  | halted cause =>
    have hstill := (standsStill (isHalted_of_status hstatus)).step clock
    refine ⟨⟨m.status, none, false, m.status.fault?⟩, by rw [hstill], ?_, ?_, ?_, ?_⟩
    · rw [hstill]
    · rw [hstill]
    · simp [hstatus]
    · rw [hstill]
      rfl
  | running =>
    let q : Moment := ⟨m, clock⟩
    cases q.ends hrange hstatus with
    | failed f h =>
      have hs : q.ticked.step m.keypad.snapshot = _ :=
        Core.step_of_obstacle (Moment.inRange_ticked hrange) _ h.obstacle
      refine ⟨_, h.result_eq, h.status_after.symm, ?_, ?_, ?_⟩
      · exact (congrArg Status.fault? h.status_after).symm
      · intro d
        rw [hs]
        simp
      · show q.after.steps = m.steps + 0
        rw [h.after_eq]
        rfl
    | completed d c h =>
      have hs : q.ticked.step m.keypad.snapshot = _ := h.step_eq hrange hstatus
      refine ⟨_, h.result_eq, h.status_after.symm, ?_, ?_, ?_⟩
      · exact (congrArg Status.fault? h.status_after).symm
      · intro d'
        rw [hs]
        simp [hstatus]
      · show q.after.steps = m.steps + 1
        rw [h.after_eq]
        rfl

/-! ## The mark that a program ended -/

/-- The mark of the processor and the status agree, and a host that halted the machine said why. -/
structure Settled (m : Machine) : Prop where
  exited_iff : m.core.exited = true ↔ m.status = .halted .exit
  said : m.status ≠ .halted (.host none)

/-- A step is not what halts a machine for its host. -/
theorem Moment.status_after_ne_host {q : Moment} (hrange : q.before.core.InRange)
    (hrun : q.before.status = .running) (reason : Option String) :
    q.after.status ≠ .halted (.host reason) := by
  cases q.ends hrange hrun with
  | failed f h => simp [h.status_after]
  | completed d c h =>
    rw [h.status_after]
    exact Core.verdict_ne_host reason

theorem Moment.settled_after {q : Moment} (hm : MadeFrom setup q.before)
    (hrun : q.before.status = .running) : q.after.Settled := by
  have hrange := hm.keeps.core.toInRange
  refine ⟨?_, status_after_ne_host hrange hrun none⟩
  cases q.ends hrange hrun with
  | failed f h =>
    rw [h.core_after, h.status_after]
    simp [ticked, Core.tickedOn, hm.keeps.not_exited hrun]
  | completed d c h =>
    rw [h.core_after, h.status_after]
    exact Core.verdict_eq_exit_iff.symm

/-- A restart takes the mark away, and nothing else but a step changes it. -/
theorem exited_respond (clock : Clock) {a : Action} (hsteps : a.takesSteps = false) :
    (m.respond clock a).machine.core.exited = (!a.restarts && m.core.exited) := by
  cases hrestarts : a.restarts with
  | true =>
    obtain ⟨program, timers, random, hcore⟩ :=
      exists_core_respond_of_restarts (m := m) clock hrestarts
    rw [hcore]
    rfl
  | false =>
    obtain ⟨memory, hcore, -⟩ := exists_core_respond (m := m) clock hsteps hrestarts
    rw [hcore]
    rfl

theorem Settled.respond (h : m.Settled) (clock : Clock) {a : Action} (ha : a ≠ .halt none)
    (hsteps : a.takesSteps = false) : (m.respond clock a).machine.Settled := by
  have hexited := exited_respond (m := m) clock hsteps
  cases hrestarts : a.restarts with
  | true =>
    rw [hrestarts] at hexited
    obtain hstatus | ⟨size, hstatus⟩ := status_respond_of_restarts (m := m) clock hrestarts
    · exact ⟨by simp [hexited, hstatus], by simp [hstatus]⟩
    · exact ⟨by simp [hexited, hstatus], by simp [hstatus]⟩
  | false =>
    rw [hrestarts] at hexited
    obtain hsame | ⟨reason, rfl, hrun, hhalted⟩ := status_respond (m := m) clock hsteps hrestarts
    · exact ⟨by rw [hexited, hsame]; exact h.exited_iff, by rw [hsame]; exact h.said⟩
    · cases reason with
      | none => exact absurd rfl ha
      | some reason =>
        -- a machine that runs has no mark yet
        have hunmarked : m.core.exited ≠ true := fun hmarked => by
          cases hrun.symm.trans (h.exited_iff.1 hmarked)
        exact ⟨by simp [hexited, hhalted, hunmarked], by simp [hhalted]⟩

theorem settled_after (hm : MadeFrom setup m) (h : m.Settled)
    (hsaid : ∀ turn ∈ history, turn.2 ≠ .halt none) : (m.after history).Settled := by
  refine hm.after_preserve (A := (· ≠ .halt none)) ?_ ?_ h hsaid
  · intro q hn hrun _
    exact Moment.settled_after hn hrun
  · intro n clock a ha hsteps hsettled
    exact hsettled.respond clock ha hsteps

/-! ## What halted a machine -/

/-- Steps do not halt a machine for its host. -/
theorem status_respond_ne_host (hm : MadeFrom setup m) (hrun : m.status = .running)
    (clock : Clock) {a : Action} (ha : a.takesSteps = true) (reason : Option String) :
    (m.respond clock a).machine.status ≠ .halted (.host reason) := by
  show (m.after [(clock, a)]).status ≠ _
  refine hm.after_preserve (P := fun n => n.status ≠ .halted (.host reason))
    (A := (·.takesSteps = true)) ?_ ?_ (by simp [hrun]) (by simpa using ha)
  · intro q hn hq _
    exact Moment.status_after_ne_host hn.keeps.core.toInRange hq reason
  · intro n clock a ha hother
    cases ha.symm.trans hother

/-- A machine that a step halted with the reason of an end was ended by its program. -/
theorem HaltedBy.status_eq_exit (hm : MadeFrom setup m) (h : m.HaltedBy Action.takesSteps history)
    (hreason : (m.after history).status.reason? = some "exit") :
    (m.after history).status = .halted .exit := by
  obtain ⟨earlier, clock, a, later, rfl, ha, hrun, hhalted, hkept⟩ := h
  have hsame : (m.after (earlier ++ (clock, a) :: later)).status =
      (m.after (earlier ++ [(clock, a)])).status := by
    rw [← status_after_of_halted hhalted hkept, ← after_append, List.append_assoc]
    rfl
  have hhost := status_respond_ne_host (hm.after earlier) hrun clock ha
  rw [hsame] at hreason ⊢
  rw [after_append] at hreason hhalted ⊢
  cases hstatus : ((m.after earlier).after [(clock, a)]).status with
  | running => simp [isHalted, hstatus, Status.isHalted] at hhalted
  | halted cause =>
    rw [hstatus] at hreason
    cases cause with
    | exit => rfl
    | fault f => exact absurd (Option.some.inj hreason) f.describe_ne_exit
    | host reason => exact absurd hstatus (hhost reason)

/-- Either the first action halted the machine, or a later one did. -/
theorem haltedBy_cons_iff {kind : Action → Bool} {clock : Clock} {a : Action} :
    m.HaltedBy kind ((clock, a) :: history) ↔
      (kind a = true ∧ m.status = .running ∧ (m.respond clock a).machine.isHalted ∧
        ∀ turn ∈ history, turn.2.restarts = false) ∨
      (m.respond clock a).machine.HaltedBy kind history := by
  constructor
  · rintro ⟨earlier, clock', a', later, heq, ha, hrun, hhalted, hkept⟩
    cases earlier with
    | nil =>
      obtain ⟨⟨⟩, rfl⟩ := List.cons.inj heq
      exact .inl ⟨ha, hrun, hhalted, hkept⟩
    | cons turn rest =>
      obtain ⟨rfl, rfl⟩ := List.cons.inj heq
      exact .inr ⟨rest, clock', a', later, rfl, ha, hrun, hhalted, hkept⟩
  · rintro (⟨ha, hrun, hhalted, hkept⟩ | ⟨earlier, clock', a', later, rfl, hrest⟩)
    · exact ⟨[], clock, a, history, rfl, ha, hrun, hhalted, hkept⟩
    · exact ⟨(clock, a) :: earlier, clock', a', later, rfl, hrest⟩

/-- A mark that the program ended was there from the beginning, or was set by a step. -/
theorem haltedBy_of_exited (hm : MadeFrom setup m) (h : m.Settled)
    (hsaid : ∀ turn ∈ history, turn.2 ≠ .halt none)
    (hexited : (m.after history).core.exited = true) :
    (m.core.exited = true ∧ ∀ turn ∈ history, turn.2.restarts = false) ∨
      m.HaltedBy Action.takesSteps history := by
  induction history generalizing m with
  | nil => exact .inl ⟨hexited, by simp⟩
  | cons turn rest ih =>
    obtain ⟨clock, a⟩ := turn
    have hsettled : (m.after [(clock, a)]).Settled :=
      settled_after hm h (by simpa using hsaid _ (.head _))
    -- the mark was there after the first action, or a later one set it
    obtain ⟨hmarked, hkept⟩ | hhalted :=
      ih (hm.performed clock a) hsettled (fun t ht => hsaid t (.tail _ ht)) hexited
    · cases ha : a.takesSteps with
      | true =>
        cases hstatus : m.status with
        | running =>
          exact .inr (haltedBy_cons_iff.2 (.inl ⟨ha, hstatus,
            isHalted_of_status (hsettled.exited_iff.1 hmarked), hkept⟩))
        | halted cause =>
          rw [(standsStill (isHalted_of_status hstatus)).respond clock ha] at hmarked
          exact .inl ⟨hmarked, List.forall_mem_cons.2 ⟨a.restarts_of_takesSteps ha, hkept⟩⟩
      | false =>
        rw [exited_respond clock ha, Bool.and_eq_true, Bool.not_eq_true'] at hmarked
        exact .inl ⟨hmarked.2, List.forall_mem_cons.2 ⟨hmarked.1, hkept⟩⟩
    · exact .inr (haltedBy_cons_iff.2 (.inr hhalted))

/-- A machine that was just switched on was not ended. -/
theorem settled_of_switchOn {clock : Clock} {printed : Bool} {o : Observed Machine}
    (hon : switchOn setup clock printed = .ok o) :
    o.value.Settled ∧ o.value.core.exited = false := by
  obtain ⟨-, trace, -, rfl⟩ := (switchOn_eq_ok_iff clock).1 hon
  exact ⟨⟨⟨nofun, nofun⟩, nofun⟩, rfl⟩

/-- **The processor is marked as ended just if a step ended the program.** -/
theorem exited_iff {clock : Clock} {printed : Bool} {o : Observed Machine}
    (hon : switchOn setup clock printed = .ok o)
    (hsaid : ∀ turn ∈ history, turn.2 ≠ .halt none) :
    (o.value.after history).core.exited = true ↔
      (o.value.after history).status.reason? = some "exit" ∧
        o.value.HaltedBy Action.takesSteps history := by
  obtain ⟨hstart, hunmarked⟩ := settled_of_switchOn hon
  have hm : MadeFrom setup o.value := .switchedOn hon
  have hsettled := settled_after hm hstart hsaid
  constructor
  · intro hexited
    obtain ⟨hmarked, -⟩ | hhalted := haltedBy_of_exited hm hstart hsaid hexited
    · cases hunmarked.symm.trans hmarked
    · exact ⟨by rw [hsettled.exited_iff.1 hexited]; rfl, hhalted⟩
  · rintro ⟨hreason, hhalted⟩
    exact hsettled.exited_iff.2 (hhalted.status_eq_exit hm hreason)

end Machine

end SuperChip
