import SuperChip.Proofs.Machine.Lifecycle
import SuperChip.Proofs.Rig.Creation

/-!
# From running to halted

Whether a rig runs, why it halted, which fault it met and the mark of its processor that the program
ended are fields of their own, which different operations set and take back. They hang together all
the same, because a machine that keeps them in one status does the same.

- `Rig.Consistent`: the state, the reason and the fault agree.
- `Bench.TellsStep`: what is told about a step is what it left behind.
- `Bench.StandsStill`: nothing happens to a rig that is stepped or halted, nor around it.
- `Bench.HaltedBy`: the last halt came about by an action of a kind.
- `lifecycle_is_consistent`: **all that a rig shows of a halt hangs together**, whatever was done
  with it.

About `Machine.halt`, `_fail`, `step`, `run`, `reset` and `load`.
-/

namespace SuperChip

/-- What a rig shows of a halt. -/
structure Rig.Consistent (rig : Rig) : Prop where
  running_iff : rig.state = .running ↔ rig.haltReason = none
  fault : ∀ f, rig.lastError = some f →
    rig.state = .halted ∧ rig.haltReason = some (f.name ++ ": " ++ f.message)

/-- A rig shows of a halt what another one did. -/
structure Rig.ShowsHalt (rig rig' : Rig) : Prop where
  state : rig'.state = rig.state
  haltReason : rig'.haltReason = rig.haltReason
  lastError : rig'.lastError = rig.lastError

theorem Status.eq_of_fault? {s : Status} {f : Fault} (h : s.fault? = some f) :
    s = .halted (.fault f) := by
  cases s with
  | running => cases h
  | halted cause =>
    cases cause with
    | fault f' =>
      cases h
      rfl
    | _ => cases h

namespace Machine

variable {m : Machine}

theorem state_rig_eq_running_iff : m.rig.state = .running ↔ m.status = .running := by
  show m.status.state = .running ↔ m.status = .running
  cases m.status <;> simp [Status.state]

/-- The parts of a settled rig belong together. -/
theorem Settled.consistent (h : m.Settled) : m.rig.Consistent := by
  obtain ⟨-, hsaid⟩ := h
  constructor
  · show m.status.state = .running ↔ m.status.reason? = none
    cases hstatus : m.status with
    | running => exact ⟨fun _ => rfl, fun _ => rfl⟩
    | halted cause =>
      cases cause with
      | host reason =>
        cases reason with
        | none => exact absurd hstatus hsaid
        | some reason => exact ⟨nofun, nofun⟩
      | _ => exact ⟨nofun, nofun⟩
  · intro f hf
    have hstatus : m.status = .halted (.fault f) := Status.eq_of_fault? hf
    refine ⟨state_rig_eq_halted_iff.2 (isHalted_of_status hstatus), ?_⟩
    show m.status.reason? = _
    rw [hstatus]
    rfl

end Machine

namespace Bench

variable {setup : Machine.Setup} {m : Machine} {b made : Bench} {script : List Request}

/-- A rig was halted by an action of a kind, and was not restarted since. -/
def HaltedBy (b : Bench) (kind : Action → Bool) (script : List Request) : Prop :=
  ∃ earlier r later, script = earlier ++ r :: later ∧ kind r.action = true ∧
    (b.after earlier).rig.state = .running ∧ (b.after (earlier ++ [r])).rig.state = .halted ∧
    ∀ r ∈ later, r.action.restarts = false

/-- What is told about a step. -/
structure TellsStep (b : Bench) (r : Rig.Report) (next : Bench) : Prop where
  on : step.on b = (.ok r, next)
  state : r.state = next.rig.state
  error : r.error = next.rig.lastError
  /-- The instruction is one that the processor completed. -/
  instruction : ∀ d, r.instruction = some d ↔
    b.rig.state = .running ∧
      ∃ c, (b.rig.core.tickedOn b.around.clock).step b.rig.keypad.snapshot = (.ok d, c)
  /-- Such steps are counted, and no others are. -/
  steps : next.rig.steps = b.rig.steps + if r.instruction.isSome then 1 else 0

/-- Nothing happens to a rig that is stepped or halted, nor around it. -/
structure StandsStill (b : Bench) : Prop where
  step : step.on b = (.ok ⟨.halted, none, false, b.rig.lastError⟩, b)
  run : ∀ limit, (runSteps limit).on b = (.ok 0, b)
  halt : ∀ reason, (halt reason).on b = (.ok (), b)

/-- A halted rig stands still. -/
theorem standsStill_of_halted (h : b.rig.state = .halted) : b.StandsStill := by
  have hrig : theRig.on b = (.ok b.rig, b) := rfl
  refine ⟨?_, fun limit => ?_, fun reason => ?_⟩
  · unfold step
    rw [Attempt.bind_of_ok hrig, if_pos h, h]
    rfl
  · cases limit with
    | zero => rfl
    | succ limit =>
      unfold runSteps
      rw [Attempt.bind_of_ok hrig, if_pos h]
      rfl
  · unfold halt
    rw [Attempt.bind_of_ok hrig, if_pos h]
    rfl

/-! ## The machine of a rig -/

/-- What is told about a step is what it left behind. -/
theorem exists_tellsStep (hm : Machine.MadeFrom setup m) (around : Around) :
    ∃ r next, (Bench.mk m.rig around).TellsStep r next := by
  obtain ⟨next, hon, -⟩ := yields_step around.clock m around rfl
  obtain ⟨r, hr, htells⟩ := Machine.exists_tellsStep hm.keeps.core.toInRange around.clock
  rw [hr] at hon
  refine ⟨r.report, _, hon, ?_, htells.error, ?_, ?_⟩
  · exact congrArg Status.state htells.status
  · intro d
    rw [Machine.state_rig_eq_running_iff]
    exact htells.instruction d
  · exact htells.steps

/-- The actions of a script are those of its turns. -/
theorem forall_mem_turns_iff (P : Action → Prop) (m : Machine) (clock : Clock) :
    (∀ turn ∈ m.turns clock script, P turn.2) ↔ ∀ r ∈ script, P r.action := by
  induction script generalizing m clock with
  | nil => simp [Machine.turns]
  | cons r rest ih => rw [Machine.turns, List.forall_mem_cons, List.forall_mem_cons, ih]

/-- Either the first request halted the rig, or a later one did. -/
theorem haltedBy_cons_iff {kind : Action → Bool} {r : Request} :
    b.HaltedBy kind (r :: script) ↔
      (kind r.action = true ∧ b.rig.state = .running ∧ (b.answer r).2.rig.state = .halted ∧
        ∀ r ∈ script, r.action.restarts = false) ∨
      (b.answer r).2.HaltedBy kind script := by
  constructor
  · rintro ⟨earlier, r', later, heq, hkind, hrun, hhalted, hkept⟩
    cases earlier with
    | nil =>
      obtain ⟨rfl, rfl⟩ := List.cons.inj heq
      exact .inl ⟨hkind, hrun, hhalted, hkept⟩
    | cons first rest =>
      obtain ⟨rfl, rfl⟩ := List.cons.inj heq
      exact .inr ⟨rest, r', later, rfl, hkind, hrun, hhalted, hkept⟩
  · rintro (⟨hkind, hrun, hhalted, hkept⟩ | ⟨earlier, r', later, rfl, hrest⟩)
    · exact ⟨[], r, script, rfl, hkind, hrun, hhalted, hkept⟩
    · exact ⟨r :: earlier, r', later, rfl, hrest⟩

theorem not_haltedBy_nil {kind : Action → Bool} : ¬ b.HaltedBy kind [] := by
  rintro ⟨earlier, r, later, heq, -⟩
  simp at heq

/-- What halted a rig is what halted its machine. -/
theorem haltedBy_rig_iff {kind : Action → Bool} (hm : Machine.MadeFrom setup m) (around : Around) :
    (Bench.mk m.rig around).HaltedBy kind script ↔
      m.HaltedBy kind (m.turns around.clock script) := by
  -- after each request the machine and what is around it are others
  induction script generalizing m around with
  | nil =>
    refine iff_of_false not_haltedBy_nil ?_
    rintro ⟨earlier, clock, a, later, heq, -⟩
    simp [Machine.turns] at heq
  | cons r rest ih =>
    let now := r.clock.getD around.clock
    obtain ⟨next, hanswer, hclock⟩ := answer_eq hm around r
    have hrest := ih (hm.performed now r.action) next
    rw [hclock] at hrest
    rw [haltedBy_cons_iff, hanswer, hrest, Machine.turns, Machine.haltedBy_cons_iff,
      Machine.state_rig_eq_running_iff, Machine.state_rig_eq_halted_iff,
      forall_mem_turns_iff (·.restarts = false)]

/-! ## All of it -/

/-- A halt stays as it is until the next restart. -/
theorem showsHalt_after (hm : Machine.MadeFrom setup m) (h : m.isHalted) (around : Around)
    (hkept : ∀ r ∈ script, r.action.restarts = false) :
    m.rig.ShowsHalt ((Bench.mk m.rig around).after script).rig := by
  obtain ⟨last, hlast⟩ := after_eq hm around script
  have hstatus := Machine.status_after_of_halted h
    ((forall_mem_turns_iff (·.restarts = false) m around.clock).2 hkept)
  rw [hlast]
  exact ⟨congrArg Status.state hstatus, congrArg Status.reason? hstatus,
    congrArg Status.fault? hstatus⟩

/-- **All that a rig shows of a halt hangs together**, whatever was done with it on whatever clock:
the state, the reason and the fault are those of one halt, the processor is marked as ended just if
a step ended the program, what is told about a step is what the step left behind, and nothing
happens to a rig that is halted, which stays halted for the same reason until it is restarted. -/
theorem lifecycle_is_consistent (hmade : (create setup).on b = (.ok (), made))
    (script : List Request) (hsaid : ∀ r ∈ script, r.action ≠ .halt none) :
    let now := made.after script
    now.rig.Consistent ∧
      (now.rig.core.exited = true ↔
        now.rig.state = .halted ∧ now.rig.haltReason = some "exit" ∧
          made.HaltedBy Action.takesSteps script) ∧
      (∀ clock, ∃ r next, (now.wind clock).TellsStep r next) ∧
      (now.rig.state = .halted → now.StandsStill ∧
        ∀ later : List Request, (∀ r ∈ later, r.action.restarts = false) →
          now.rig.ShowsHalt (now.after later).rig) := by
  obtain ⟨o, hon, hrig, -⟩ := switchedOn_of_create hmade
  obtain ⟨rig, around⟩ := made
  obtain rfl : rig = o.value.rig := hrig
  have hm : Machine.MadeFrom (setupOn setup b) o.value := .switchedOn hon
  obtain ⟨last, hnow⟩ := after_eq hm around script
  let m := o.value.after (o.value.turns around.clock script)
  have hturns := (forall_mem_turns_iff (· ≠ .halt none) o.value around.clock).2 hsaid
  have hsettled : m.Settled :=
    Machine.settled_after hm (Machine.settled_of_switchOn hon).1 hturns
  have hconsistent : m.rig.Consistent := hsettled.consistent
  have hleft : Machine.MadeFrom (setupOn setup b) m := hm.after _
  intro now
  rw [show now = ⟨m.rig, last⟩ from hnow, haltedBy_rig_iff hm]
  refine ⟨hconsistent, ?_, fun clock => ?_, fun h => ⟨?_, ?_⟩⟩
  · refine (Machine.exited_iff hon hturns).trans
      ⟨fun ⟨hreason, hby⟩ => ⟨?_, hreason, hby⟩, And.right⟩
    cases hstatus : m.status with
    | running => simp [m, hstatus, Status.reason?, Status.cause?] at hreason
    | halted cause => exact Machine.state_rig_eq_halted_iff.2 (Machine.isHalted_of_status hstatus)
  · rw [wind_eq]
    exact exists_tellsStep hleft _
  · exact standsStill_of_halted h
  · exact fun later hkept => showsHalt_after hleft (Machine.state_rig_eq_halted_iff.1 h) last hkept

/-- A program whose first instruction ends it. -/
theorem exited_of_starts (hm : Machine.MadeFrom setup m) (h : m.Starts [0x00, 0xFD])
    (clock : Clock) : (m.stepOn clock).machine.core.exited = true := by
  let q : Machine.Moment := ⟨m, clock⟩
  have hrange : q.before.core.InRange := hm.keeps.core.toInRange
  have hpeek : q.ticked.peek = .ok ⟨0x00FD, .exit⟩ := h.peek_eq
  have hs : q.ticked.step m.keypad.snapshot =
      (.ok ⟨0x00FD, .exit⟩, q.ticked.effect m.keypad.snapshot .exit) := by
    simp only [Core.step_eq (Machine.Moment.inRange_ticked hrange), hpeek, Instruction.refusal?]
  have hcompleted := Machine.Moment.completed_of_step hrange h.running hs
  exact congrArg Core.exited hcompleted.core_after

/-- A program that ends itself is not halted by its host any more, and one that its host halts with
the same word did not end itself. -/
theorem lifecycle_of_sample :
    ∃ made, (create { Machine.sampleSetup with traceCapacity := 0 }).on (sample none) =
        (.ok (), made) ∧
      (let now := made.after [⟨some (.still 1), .load [0x00, 0xFD]⟩, ⟨none, .step⟩]
       now.rig.core.exited = true ∧ now.rig.haltReason = some "exit" ∧ now.StandsStill) ∧
      (let now := made.after [⟨some (.still 1), .load [0x00, 0xFD]⟩, ⟨none, .halt (some "exit")⟩]
       now.rig.core.exited = false ∧ now.rig.haltReason = some "exit" ∧ now.StandsStill) := by
  obtain ⟨o, around, hon, hmade⟩ := exists_create_sample none (.inl rfl)
  let n := (o.value.loadOn (.still 1) [0x00, 0xFD]).value.1
  have hm : Machine.MadeFrom _ o.value := .switchedOn hon
  have hn : Machine.MadeFrom _ n := hm.performed (.still 1) (.load [0x00, 0xFD])
  have hstarts : n.Starts [0x00, 0xFD] := Machine.starts_loadOn _ _ (by decide)
  have hafter (a : Action) : ∃ last, (Bench.mk o.value.rig around).after
      [⟨some (.still 1), .load [0x00, 0xFD]⟩, ⟨none, a⟩] =
        ⟨(n.respond ((Clock.still 1).skip 2) a).machine.rig, last⟩ := after_eq hm around _
  refine ⟨_, hmade, ?_, ?_⟩
  · obtain ⟨-, hexited, -, hstill⟩ := lifecycle_is_consistent hmade
      [⟨some (.still 1), .load [0x00, 0xFD]⟩, ⟨none, .step⟩] (by simp)
    obtain ⟨last, hlast⟩ := hafter .step
    have hended := exited_of_starts hn hstarts ((Clock.still 1).skip 2)
    rw [hlast] at hexited hstill ⊢
    obtain ⟨hhalted, hreason, -⟩ := hexited.1 hended
    exact ⟨hended, hreason, (hstill hhalted).1⟩
  -- its host is quicker
  · obtain ⟨-, -, -, hstill⟩ := lifecycle_is_consistent hmade
      [⟨some (.still 1), .load [0x00, 0xFD]⟩, ⟨none, .halt (some "exit")⟩] (by simp)
    obtain ⟨last, hlast⟩ := hafter (.halt (some "exit"))
    rw [hlast] at hstill ⊢
    have hhalt : (n.respond ((Clock.still 1).skip 2) (.halt (some "exit"))).machine =
        { n with status := .halted (.host (some "exit")) } := Machine.value_stop hstarts.running _
    rw [hhalt] at hstill ⊢
    exact ⟨hn.keeps.not_exited hstarts.running, rfl, (hstill rfl).1⟩

end Bench

end SuperChip
