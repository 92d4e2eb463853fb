import SuperChip.Proofs.Machine.Moment
import SuperChip.Proofs.Rig.Course

/-!
# Rigs and machines

A machine keeps in one status what a rig keeps in three fields. The two do the same: every operation
of a rig is the operation of the machine that it belongs to, reports the events of that operation
where they come up, and looks at the clock as often.

- `lines_dump_rig`: a debugger shows the same of both.
- `yields_halt_rig`, `yields_fail_rig`, `yields_reset_rig`, `yields_record`: the operations that
  others are made of.
- `yields_step`, `yields_runSteps`: **a step and a run of a rig are those of the machine**.
- `yields_perform`: **an action on a rig is the action on the machine**, for every action.
- `Bench.after`, `Machine.turns`: a whole script; `after_eq` carries it over.

About all operations of `Machine` and `Keypad`.
-/

namespace SuperChip

/-! ## Machines and rigs -/

theorem Machine.rig_of_running {m : Machine} (h : m.status = .running) :
    m.rig = ⟨m.core, m.keypad, m.trace, .running, none, none, m.program, m.steps⟩ := by
  unfold Machine.rig
  rw [h]
  rfl

theorem Machine.state_rig_eq_halted_iff {m : Machine} : m.rig.state = .halted ↔ m.isHalted := by
  show m.status.state = .halted ↔ m.status.isHalted
  cases m.status <;> simp [Status.state, Status.isHalted]

/-- A debugger shows the same of a machine and of its rig. -/
theorem Machine.lines_dump_rig (m : Machine) : m.rig.dump.lines = m.dump.lines := by
  obtain ⟨core, keypad, trace, status, program, steps⟩ := m
  cases status <;> rfl

/-- What is told about a step of a machine, as of a step of its rig. -/
def StepResult.report (r : StepResult) : Rig.Report :=
  ⟨r.status.state, r.instruction, r.waiting, r.error⟩

/-- What is told about an action on a machine, as of one on its rig. -/
def Answer.told : Answer → Except Raised Rig.Told
  | .done => .ok .done
  | .loaded result => .ok (.loaded result)
  | .stepped result => ((result.map StepResult.report).mapError Raised.stop).map .stepped
  | .ran taken => (taken.mapError Raised.stop).map .ran
  | .keyed bound => (bound.mapError Raised.invalid).map .keyed
  | .poked none => .ok .done
  | .poked (some f) => .error (.stop (.fault f))

/-- How often a machine looks at the clock in an action. -/
def Machine.looks (m : Machine) (clock : Clock) : Action → Nat
  | .load _ | .reset => 2
  | .step => if m.isHalted then 0 else 2
  | .run limit => 2 * (m.runOn clock limit).taken.toOption.getD 0
  | _ => 0

/-- The actions of a script, each with the clock as it finds it. -/
def Machine.turns (m : Machine) (clock : Clock) :
    List Bench.Request → List (Clock × Action)
  | [] => []
  | r :: rest =>
    let now := r.clock.getD clock
    (now, r.action) ::
      (m.respond now r.action).machine.turns (now.skip (m.looks now r.action)) rest

/-- What the timers have reported stands before everything else. -/
theorem Machine.proceed_eq (t : Observed Machine) :
    Machine.proceed t =
      { Machine.proceed (.quiet t.value) with
        events := t.events ++ (Machine.proceed (.quiet t.value)).events } := by
  simp only [Machine.proceed, Observed.quiet, List.nil_append]
  cases t.value.core.step t.value.keypad.snapshot with
  | mk outcome core =>
    cases outcome with
    | ok d => simp only [List.append_assoc]
    | error s =>
      cases s with
      | fault f => simp only [List.append_assoc]
      | _ => rfl

namespace Bench

variable {m : Machine} (clock : Clock)

/-- A running machine is halted for a reason. -/
theorem yields_halt_rig (h : m.status = .running) (cause : Cause) (hfault : cause.fault? = none) :
    Yields (halt cause.reason?) m.rig clock
      ⟨.ok (), { m with status := .halted cause }.rig, 0, (m.stop cause).events⟩ := by
  have hstop : (m.stop cause).events = [.halted cause.reason? m.core.registers.pc] := by
    rw [Machine.stop, (m.isHalted_eq_false_iff).2 h]
    rfl
  have hrig : { m with status := .halted cause }.rig =
      { m.rig with state := .halted, haltReason := cause.reason? } := by
    rw [Machine.rig_of_running h]
    show Rig.mk _ _ _ _ _ cause.fault? _ _ = _
    rw [hfault]
    rfl
  rw [hstop, hrig]
  refine yields_halt_of_running m.rig clock ?_ _
  rw [Machine.rig_of_running h]

/-- A fault halts a running machine. -/
theorem yields_fail_rig (h : m.status = .running) (f : Fault) :
    Yields (fail f) m.rig clock
      ⟨.ok (), (m.fail f).value.rig, 0, (m.fail f).events⟩ := by
  have hfail : m.fail f = ⟨{ m with status := .halted (.fault f) },
      [.failed f, .halted (some f.describe) m.core.registers.pc]⟩ := by
    rw [Machine.fail, Machine.stop, (m.isHalted_eq_false_iff).2 h]
    rfl
  rw [hfail]
  refine yields_fail_of_running m.rig clock ?_ f
  rw [Machine.rig_of_running h]

/-- The host halts a machine. -/
theorem yields_halt (m : Machine) (reason : Option String) :
    Yields (halt reason) m.rig clock
      ⟨.ok (), (m.halt reason).value.rig, 0, (m.halt reason).events⟩ := by
  cases hstatus : m.status with
  | running =>
    rw [Machine.halt, Machine.value_stop hstatus]
    exact yields_halt_rig clock hstatus (.host reason) rfl
  | halted cause =>
    have hhalted := Machine.isHalted_of_status hstatus
    rw [Machine.halt, Machine.stop, if_pos hhalted]
    exact yields_halt_of_halted m.rig clock (Machine.state_rig_eq_halted_iff.2 hhalted) reason

/-! ## Resetting and loading -/

theorem yields_clearMemory (rig : Rig) :
    Yields clearMemory rig clock
      ⟨.ok (), { rig with core.memory := (Memory.powerOn 0x1000).1 }, 0, []⟩ := by
  unfold clearMemory
  rw [Machine.powerOn_eq]
  exact (yields_change _ _ _).andThen (yields_unlessFault _ _ (.ok ()))

/-- A program that fits is copied as a whole, also if there is nothing to copy. -/
theorem yields_placeProgram (rig : Rig) (h : rig.program.length ≤ programCapacity) :
    Yields placeProgram rig clock
      ⟨.ok (), { rig with core.memory :=
        rig.core.memory.place Memory.programStart rig.program }, 0, []⟩ := by
  unfold placeProgram
  refine (yields_theRig _ _).andThen ?_
  by_cases hempty : rig.program.isEmpty
  · have hsame : rig.core.memory.place Memory.programStart rig.program = rig.core.memory := by
      rw [List.isEmpty_iff.1 hempty]
      rfl
    rw [if_pos hempty, hsame]
    exact yields_pure _ _ _
  · rw [if_neg hempty, Machine.loadProgram_eq _ h]
    exact (yields_unlessFault _ _ (.ok _)).andThen (yields_change _ _ _)

theorem yields_clearScreen (rig : Rig) :
    Yields clearScreen rig clock ⟨.ok (), { rig with core.screen := .low }, 0, []⟩ := by
  rintro around rfl
  have hscreen : (unlessInvalid (Screen.ofSize? around.room 64 32)).on ⟨rig, around⟩ =
      (.ok .low, ⟨rig, around⟩) := by
    rw [Screen.ofSize?_low]
    rfl
  exact ⟨around, (Attempt.bind_of_ok (Attempt.on_get _)).trans (Attempt.bind_of_ok hscreen),
    .refl around⟩

/-- None of the checks on the way refuses anything. -/
theorem yields_rebuild (rig : Rig) (h : rig.program.length ≤ programCapacity) :
    Yields rebuild rig clock
      ⟨.ok (), { rig with core := .start rig.program rig.core.timers rig.core.random }, 0, []⟩ := by
  have hclear := yields_clearMemory clock rig
  unfold Core.start Ram.boot
  generalize (Memory.powerOn 0x1000).1 = memory at hclear ⊢
  unfold rebuild
  refine hclear.andThen ?_
  refine (yields_placeProgram clock { rig with core.memory := memory } h).andThen ?_
  refine (yields_change _ _ _).andThen ?_
  exact yields_clearScreen clock _

theorem yields_reset (rig : Rig) (h : rig.program.length ≤ programCapacity) :
    Yields reset rig clock
      ⟨.ok (), { rig with
          core := .start rig.program (rig.core.timers.resetAt (clock 0) (clock 1)) rig.core.random
          state := .running
          haltReason := none
          lastError := none
          steps := 0 },
        2, [.reset rig.program.length]⟩ := by
  unfold reset
  refine (yields_rebuild clock rig h).andThen ?_
  refine .afterResetTimer .delay ?_
  refine .afterResetTimer .sound ?_
  refine (yields_change _ _ _).andThen ?_
  refine (yields_theRig _ _).andThen ?_
  exact yields_note _ _ _

/-- A machine that remembers a program that fits is reset. -/
theorem yields_reset_rig (h : m.program.length ≤ programCapacity) :
    Yields reset m.rig clock
      ⟨.ok (), (m.resetOn clock).value.rig, 2, (m.resetOn clock).events⟩ :=
  yields_reset clock m.rig h

theorem yields_load (program : List UInt8) :
    Yields (load program) m.rig clock
      ⟨.ok (m.loadOn clock program).value.2, (m.loadOn clock program).value.1.rig, 2,
        (m.loadOn clock program).events⟩ := by
  unfold load Machine.loadOn Machine.install
  by_cases h : program.length > programCapacity
  · rw [if_pos h, if_pos h]
    let cleared : Machine := { m with program := [] }
    refine (yields_change _ _ _).andThen ?_
    refine (yields_reset_rig (m := cleared) clock (Nat.zero_le _)).andTimeless ?_
    refine Yields.andLast (yields_fail_rig (m := (cleared.resetOn clock).value) _ rfl _) ?_
    exact yields_pure _ _ _
  · rw [if_neg h, if_neg h]
    let kept : Machine := { m with program := program }
    refine (yields_change _ _ _).andThen ?_
    refine Yields.andLast (yields_reset_rig (m := kept) clock (Nat.le_of_not_lt h)) ?_
    exact yields_pure _ _ _

/-! ## Stepping -/

theorem yields_stepCore (rig : Rig) (keys : Keys) :
    Yields (stepCore keys) rig clock
      ⟨(rig.core.step keys).1.mapError .stop, { rig with core := (rig.core.step keys).2 }, 0,
        Machine.announce rig.core⟩ := by
  unfold stepCore Core.step Machine.announce
  refine (yields_theRig _ _).andThen ?_
  dsimp only
  cases rig.core.peek with
  | error f => exact (yields_unlessFault rig clock (.error f)).raise
  | ok d =>
    refine (yields_unlessFault _ _ (.ok d)).andThen ?_
    refine .afterNote ?_
    refine (yields_theRig _ _).andThen ?_
    dsimp only
    cases rig.core.execute keys d.instruction with
    | mk outcome after =>
      refine (yields_change _ _ _).andThen ?_
      cases outcome with
      | error s => exact (yields_ofExcept _ _ (.error (.stop s))).raise
      | ok u => exact (yields_ofExcept _ _ (.ok u)).andThen (yields_pure _ _ _)

/-- Printing the newest record is reporting it. -/
theorem yields_dump (rig : Rig) (t : Trace) (e : Trace.Entry) :
    Yields (do
        if ← debugEnabled "trace" then
          ((t.record e).render (some 1)).forM fun line => debugLog "trace" line [])
      rig clock ⟨.ok (), rig, 0, [.traced e]⟩ := by
  rw [t.render_record, List.forM_eq_forM, List.forM_cons, List.forM_nil, bind_pure_unit]
  exact yields_note _ _ (.traced e)

/-- A machine keeps the record of a step if it has a trace. -/
theorem yields_record (m : Machine) (before : Registers) (instruction : Option Decoded)
    (error : Option Fault) :
    Yields (record (m.trace.map fun _ => before) instruction error) m.rig clock
      ⟨.ok (), (m.record before instruction error).value.rig, 0,
        (m.record before instruction error).events⟩ := by
  have hhalted : decide (m.rig.state = .halted) = m.isHalted := by
    rw [Bool.eq_iff_iff, decide_eq_true_iff, Machine.state_rig_eq_halted_iff]
  unfold record Machine.record
  refine (yields_theRig _ _).andThen ?_
  rw [hhalted, show m.rig.trace = m.trace from rfl]
  cases m.trace with
  | none => exact yields_pure _ _ _
  | some t =>
    refine (yields_change _ _ _).andThen ?_
    exact yields_dump clock _ t _

/-- What becomes of a running machine that completed an instruction. -/
theorem yields_settle (h : m.status = .running) :
    Yields settle m.rig clock ⟨.ok m.settle.2, m.settle.1.value.rig, 0, m.settle.1.events⟩ := by
  unfold settle Machine.settle
  refine (yields_theRig _ _).andThen ?_
  rw [show m.rig.core = m.core from rfl]
  by_cases hexit : m.core.exited
  · rw [if_pos hexit, if_pos hexit]
    refine Yields.andLast (yields_halt_rig clock h .exit rfl) ?_
    rw [Machine.value_stop h]
    exact yields_pure _ _ _
  · rw [if_neg hexit, if_neg hexit]
    by_cases hpc : Ram.lastAddress < m.core.registers.pc
    · rw [if_pos hpc, if_pos hpc]
      exact Yields.andLast (yields_fail_rig clock h _) (yields_pure _ _ _)
    · rw [if_neg hpc, if_neg hpc]
      exact yields_pure _ _ _

/-- Both timers look at the clock before anything else. -/
theorem Yields.afterTicks {β : Type} {rest : Op β} {r : Except Raised β} {rig : Rig}
    {looks : Nat} {events : List Event}
    (hrest : Yields rest (m.tickAt (clock 0) (clock 1)).value.rig (clock.skip 2)
      ⟨r, rig, looks, events⟩) :
    Yields (do tickTimer .delay; tickTimer .sound; rest) m.rig clock
      ⟨r, rig, looks + 2, (m.tickAt (clock 0) (clock 1)).events ++ events⟩ := by
  let ticked : Rig := { m.rig with core.timers.delay := m.core.timers.delay.tick (clock 0) }
  have hsound : Yields (tickTimer .sound >>= fun _ => rest) ticked (clock.skip 1) _ :=
    (yields_tickTimer ticked (clock.skip 1) .sound).bind hrest
  have hboth := (yields_tickTimer m.rig clock .delay).bind
    (f := fun _ => tickTimer .sound >>= fun _ => rest) hsound
  rw [← List.append_assoc, ← Nat.add_assoc, Nat.add_comm] at hboth
  exact hboth

/-- The processor has met a fault, which halts the machine. -/
theorem yields_faulted (before : Registers) (h : m.status = .running) (f : Fault) :
    Yields (faulted (m.trace.map fun _ => before) f) m.rig clock
      ⟨.ok ⟨.halted, none, false, some f⟩,
        ({ m with status := .halted (.fault f) }.noted before none (some f)).rig, 0,
        (m.fail f).events ++ (Machine.record { m with status := .halted (.fault f) }
          before none (some f)).events⟩ := by
  have hfail := yields_fail_rig clock h f
  rw [Machine.value_fail h] at hfail
  have hrecord := yields_record clock { m with status := .halted (.fault f) } before none (some f)
  rw [Machine.value_record] at hrecord
  refine hfail.andTimeless (hrecord.andLast ?_)
  exact (yields_theRig _ _).andThen (yields_pure _ _ _)

/-- The processor has completed an instruction, which is counted and settled. -/
theorem yields_completed (before : Registers) (h : m.status = .running) (d : Decoded) :
    Yields (completed (m.trace.map fun _ => before) d) m.rig clock
      ⟨.ok ⟨m.core.verdict.state, some d, m.core.waiting && m.core.verdict.fault?.isNone,
          m.core.verdict.fault?⟩,
        ({ m with status := m.core.verdict, steps := m.steps + 1 }.noted before (some d)
          m.core.verdict.fault?).rig, 0,
        (Machine.settle { m with steps := m.steps + 1 }).1.events ++
          (Machine.record { m with status := m.core.verdict, steps := m.steps + 1 } before (some d)
            m.core.verdict.fault?).events⟩ := by
  let counted : Machine := { m with steps := m.steps + 1 }
  obtain ⟨hsettled, herror⟩ := Machine.settle_eq (m := counted) h
  have hsettle := yields_settle (m := counted) clock h
  rw [hsettled, herror] at hsettle
  have hrecord := yields_record clock { counted with status := m.core.verdict } before (some d)
    m.core.verdict.fault?
  rw [Machine.value_record] at hrecord
  refine (yields_change _ _ _).andThen ?_
  refine hsettle.andTimeless (hrecord.andLast ?_)
  exact (yields_theRig _ _).andThen (yields_pure _ _ _)

/-- What follows once the timers have looked at the clock. -/
theorem yields_proceed (h : m.status = .running) :
    Yields (proceed (m.trace.map fun _ => m.core.registers) m.keypad.snapshot) m.rig clock
      ⟨((Machine.proceed (.quiet m)).result.map StepResult.report).mapError .stop,
        (Machine.proceed (.quiet m)).machine.rig, 0, (Machine.proceed (.quiet m)).events⟩ := by
  let t : Observed Machine := .quiet m
  have hcore := (yields_stepCore clock m.rig m.keypad.snapshot).caught
  rw [show m.rig.core = m.core from rfl] at hcore
  unfold proceed
  cases hs : m.core.step m.keypad.snapshot with
  | mk outcome core =>
  rw [hs] at hcore
  cases outcome with
  | error s =>
    cases s with
    | fault f =>
      let before : Machine := { m with core := core }
      obtain ⟨hmachine, hresult⟩ := Machine.proceed_of_fault (t := t) h hs
      have hevents : (Machine.proceed t).events = Machine.announce m.core ++
          ((before.fail f).events ++ (Machine.record { before with status := .halted (.fault f) }
            m.core.registers none (some f)).events) := by
        rw [← Machine.value_fail (m := before) h]
        simp only [Machine.proceed, t, Observed.quiet, hs, List.append_assoc, List.nil_append,
          before]
      rw [hmachine, hresult, hevents]
      refine hcore.andTimeless ?_
      exact yields_faulted (m := before) clock m.core.registers h f
    | _ =>
      obtain ⟨hmachine, hresult⟩ := Machine.proceed_of_stop (t := t) (by simp) hs
      have hevents : (Machine.proceed t).events = Machine.announce m.core := by
        simp only [Machine.proceed, t, Observed.quiet, hs, List.nil_append]
      rw [hmachine, hresult, hevents]
      exact hcore.andLast (yields_throw _ _ _)
  | ok d =>
    let before : Machine := { m with core := core }
    obtain ⟨hmachine, hresult⟩ := Machine.proceed_of_completed (t := t) h hs
    have hevents : (Machine.proceed t).events = Machine.announce m.core ++
        ((Machine.settle { before with steps := m.steps + 1 }).1.events ++
          (Machine.record { before with status := core.verdict, steps := m.steps + 1 }
            m.core.registers (some d) core.verdict.fault?).events) := by
      obtain ⟨hsettled, herror⟩ := Machine.settle_eq (m := { before with steps := m.steps + 1 }) h
      rw [← herror]
      simp only [Machine.proceed, t, Observed.quiet, hs, List.append_assoc, List.nil_append]
      rw [hsettled]
    rw [hmachine, hresult, hevents]
    refine hcore.andTimeless ?_
    exact yields_completed (m := before) clock m.core.registers h d

/-- **A step of a rig is a step of the machine.** -/
theorem yields_step (m : Machine) :
    Yields step m.rig clock
      ⟨((m.stepOn clock).result.map StepResult.report).mapError .stop, (m.stepOn clock).machine.rig,
        if m.isHalted then 0 else 2, (m.stepOn clock).events⟩ := by
  unfold step
  refine (yields_theRig _ _).andThen ?_
  cases hstatus : m.status with
  | halted cause =>
    have hhalted := Machine.isHalted_of_status hstatus
    rw [if_pos (Machine.state_rig_eq_halted_iff.2 hhalted), if_pos hhalted, Machine.stepOn,
      Machine.stepAt_of_halted hhalted]
    exact yields_pure _ _ _
  | running =>
    have hrun : ¬ m.isHalted := by simp [(m.isHalted_eq_false_iff).2 hstatus]
    rw [if_neg (mt Machine.state_rig_eq_halted_iff.1 hrun), if_neg hrun, Machine.stepOn,
      Machine.stepAt_of_running hstatus, Machine.proceed_eq]
    refine Yields.afterTicks clock ?_
    exact yields_proceed (m := (m.tickAt (clock 0) (clock 1)).value) (clock.skip 2) hstatus

/-- A run of a rig takes the steps of the machine. -/
theorem yields_runSteps (hm : m.WellFormed) (limit : Nat) :
    ∃ taken, (Machine.runStepsOn limit clock m).taken = .ok taken ∧
      Yields (runSteps limit) m.rig clock
        ⟨.ok taken, (Machine.runStepsOn limit clock m).machine.rig, 2 * taken,
          (Machine.runStepsOn limit clock m).events⟩ := by
  -- after each step both the machine and the clock are others
  induction limit generalizing m clock with
  | zero => exact ⟨0, rfl, yields_pure _ _ _⟩
  | succ limit ih =>
    unfold Machine.runStepsOn runSteps
    cases hstatus : m.status with
    | halted cause =>
      have hhalted := Machine.isHalted_of_status hstatus
      rw [if_pos hhalted]
      refine ⟨0, rfl, (yields_theRig _ _).andThen ?_⟩
      rw [if_pos (Machine.state_rig_eq_halted_iff.2 hhalted)]
      exact yields_pure _ _ _
    | running =>
      have hrun : ¬ m.isHalted := by simp [(m.isHalted_eq_false_iff).2 hstatus]
      rw [if_neg hrun]
      have hstep := yields_step clock m
      rw [if_neg hrun] at hstep
      obtain ⟨r, hr⟩ := Machine.exists_stepOn hm.core.toInRange clock
      have hnext : (m.stepOn clock).machine.WellFormed := hm.stepAt _ _
      obtain ⟨taken, htaken, hrest⟩ := ih clock.later hnext
      simp only [hr]
      refine ⟨taken + 1, by rw [htaken]; rfl, (yields_theRig _ _).andThen ?_⟩
      rw [if_neg (mt Machine.state_rig_eq_halted_iff.1 hrun), Nat.mul_succ,
        Nat.add_comm (2 * taken)]
      rw [hr] at hstep
      refine hstep.bind ?_
      exact hrest.map (· + 1)

/-! ## The keypad -/

theorem yields_turn (key : Fin 16) (down : Bool) :
    Yields (turn key down) m.rig clock
      ⟨.ok (), { m with keypad := (m.keypad.turn key down).value }.rig, 0,
        (m.keypad.turn key down).events⟩ := by
  unfold turn Keypad.turn
  refine (yields_theRig _ _).andThen ?_
  rw [show m.rig.keypad = m.keypad from rfl]
  by_cases h : m.keypad.isDown key = down
  · rw [if_pos h, if_pos h]
    exact yields_pure _ _ _
  · rw [if_neg h, if_neg h]
    exact (yields_change _ _ _).andThen (yields_note _ _ _)

/-- An operation on the keypad of a rig does what it does to the keypad alone. -/
def Uses (x : Op Unit) (m : Machine) (clock : Clock) (attempt : Except Invalid (Observed Keypad)) :
    Prop :=
  Yields x m.rig clock
    ⟨(attempt.map fun _ => ()).mapError .invalid, (m.withKeypad (attempt.map (·.value))).rig, 0,
      (attempt.toOption.map Observed.events).getD []⟩

theorem uses_pressKey (key : Int) (source : String) :
    Uses (pressKey key source) m clock (m.keypad.pressKey key source) := by
  unfold pressKey Keypad.pressKey
  cases Keypad.key? key with
  | error e => exact (yields_unlessInvalid _ _ (.error e)).raise
  | ok k =>
    refine (yields_unlessInvalid _ _ (.ok k)).andThen ?_
    refine (yields_theRig _ _).andThen ?_
    refine (yields_change _ _ _).andThen ?_
    exact yields_turn (m := { m with keypad := m.keypad.setHolders k _ }) clock k true

theorem uses_releaseKey (key : Int) (source : String) :
    Uses (releaseKey key source) m clock (m.keypad.releaseKey key source) := by
  unfold releaseKey Keypad.releaseKey
  cases Keypad.key? key with
  | error e => exact (yields_unlessInvalid _ _ (.error e)).raise
  | ok k =>
    let others := (m.keypad.holders.get k).erase source
    let left : Machine := { m with keypad := m.keypad.setHolders k others }
    refine (yields_unlessInvalid _ _ (.ok k)).andThen ?_
    refine (yields_theRig _ _).andThen ?_
    refine (yields_change _ _ _).andThen ?_
    show Yields (if others.isEmpty then turn k false else pure ()) left.rig clock
      ⟨.ok (), { m with keypad := (m.keypad.letGo k source).value }.rig, 0,
        (m.keypad.letGo k source).events⟩
    unfold Keypad.letGo
    by_cases hempty : others.isEmpty
    · rw [if_pos hempty]
      simp only [others] at hempty
      rw [if_pos hempty]
      exact yields_turn (m := left) clock k false
    · rw [if_neg hempty]
      simp only [others] at hempty
      rw [if_neg hempty]
      exact yields_pure _ _ _

/-- A key of the host that is bound is one of the keypad. -/
theorem Uses.bound {x : Op Unit} {attempt : Except Invalid (Observed Keypad)}
    (h : Uses x m clock attempt) :
    Yields (do x; return true) m.rig clock
      ⟨((attempt.map (·.map (·, true))).map (·.value.2)).mapError .invalid,
        (m.useKeypad (attempt.map (·.map (·, true)))).machine.rig, 0,
        (m.useKeypad (attempt.map (·.map (·, true)))).events⟩ := by
  unfold Uses at h
  cases attempt with
  | error e => exact h.raise
  | ok o => exact h.andLast (yields_pure _ _ _)

theorem yields_press (name : String) :
    Yields (press name) m.rig clock
      ⟨((m.keypad.press name).map (·.value.2)).mapError .invalid,
        (m.useKeypad (m.keypad.press name)).machine.rig, 0,
        (m.useKeypad (m.keypad.press name)).events⟩ := by
  unfold press Keypad.press
  refine (yields_theRig _ _).andThen ?_
  rw [show m.rig.keypad = m.keypad from rfl]
  cases m.keypad.lookup name with
  | none => exact .afterNote (yields_pure _ _ _)
  | some key => exact (uses_pressKey clock key (Text.lower name)).bound

theorem yields_release (name : String) :
    Yields (release name) m.rig clock
      ⟨((m.keypad.release name).map (·.value.2)).mapError .invalid,
        (m.useKeypad (m.keypad.release name)).machine.rig, 0,
        (m.useKeypad (m.keypad.release name)).events⟩ := by
  unfold release Keypad.release
  refine (yields_theRig _ _).andThen ?_
  rw [show m.rig.keypad = m.keypad from rfl]
  cases m.keypad.lookup name with
  | none => exact .afterNote (yields_pure _ _ _)
  | some key => exact (uses_releaseKey clock key (Text.lower name)).bound

theorem told_useKeypad (attempt : Except Invalid (Observed (Keypad × Bool))) :
    (m.useKeypad attempt).answer.told =
      ((attempt.map (·.value.2)).mapError Raised.invalid).map Rig.Told.keyed := by
  cases attempt <;> rfl

/-- An action uses the keypad of a rig just as it uses that of the machine. -/
theorem Uses.respond {x : Op Unit} {attempt : Except Invalid (Observed Keypad)}
    (h : Uses x m clock attempt) :
    Yields (do x; return .keyed true) m.rig clock
      ⟨(m.useKeypad (attempt.map (·.map (·, true)))).answer.told,
        (m.useKeypad (attempt.map (·.map (·, true)))).machine.rig, 0,
        (m.useKeypad (attempt.map (·.map (·, true)))).events⟩ := by
  have htold := h.bound.map Rig.Told.keyed
  rw [← told_useKeypad] at htold
  simpa only [bind_assoc, pure_bind] using htold

/-- **An action on a rig is the action on the machine.** -/
theorem yields_perform (hm : m.WellFormed) (a : Action) :
    Yields (perform a) m.rig clock
      ⟨(m.respond clock a).answer.told, (m.respond clock a).machine.rig, m.looks clock a,
        (m.respond clock a).events⟩ := by
  cases a with
  | load program => exact (yields_load clock program).map Rig.Told.loaded
  | reset => exact (yields_reset_rig clock hm.program_le).andLast (yields_pure _ _ _)
  | step => exact (yields_step clock m).map Rig.Told.stepped
  | run limit =>
    obtain ⟨taken, htaken, hrun⟩ := yields_runSteps clock hm limit.toNat
    have hlooks : m.looks clock (.run limit) = 2 * taken := by
      rw [Machine.looks, Machine.runOn, htaken]
      rfl
    have hanswer : (m.respond clock (.run limit)).answer = .ran (.ok taken) :=
      congrArg Answer.ran htaken
    rw [hlooks, hanswer]
    exact hrun.map Rig.Told.ran
  | halt reason => exact (yields_halt clock m reason).andLast (yields_pure _ _ _)
  | press name =>
    rw [Machine.respond, told_useKeypad]
    exact (yields_press clock name).map Rig.Told.keyed
  | release name =>
    rw [Machine.respond, told_useKeypad]
    exact (yields_release clock name).map Rig.Told.keyed
  | pressKey key source => exact (uses_pressKey clock key source).respond clock
  | releaseKey key source => exact (uses_releaseKey clock key source).respond clock
  | releaseAll => exact (yields_change _ _ _).andLast (yields_pure _ _ _)
  | poke address bytes =>
    refine (yields_theRig _ _).andThen ?_
    show Yields _ m.rig clock ⟨(m.putMemory (m.core.memory.write address bytes)).answer.told,
      (m.putMemory (m.core.memory.write address bytes)).machine.rig, 0,
      (m.putMemory (m.core.memory.write address bytes)).events⟩
    rw [show m.rig.core.memory = m.core.memory from rfl]
    cases m.core.memory.write address bytes with
    | error f => exact (yields_unlessFault _ _ (.error f)).raise
    | ok memory =>
      refine (yields_unlessFault _ _ (.ok memory)).andThen ?_
      exact (yields_change _ _ _).andLast (yields_pure _ _ _)

/-! ## Scripts -/

/-- The bench after a script. -/
def after (b : Bench) (script : List Request) : Bench := (b.follow script).2

theorem after_cons (b : Bench) (r : Request) (rest : List Request) :
    b.after (r :: rest) = (b.answer r).2.after rest := rfl

/-- **What is asked of a rig is asked of the machine.** -/
theorem answer_eq {setup : Machine.Setup} (hm : Machine.MadeFrom setup m) (around : Around)
    (r : Request) :
    let now := r.clock.getD around.clock
    ∃ next, (Bench.mk m.rig around).answer r =
        ((m.respond now r.action).answer.told, ⟨(m.respond now r.action).machine.rig, next⟩) ∧
      next.clock = now.skip (m.looks now r.action) := by
  intro now
  obtain ⟨next, hon, hgoes⟩ := yields_perform now hm.keeps.toWellFormed r.action
    ((Bench.mk m.rig around).wind r.clock).around (clock_wind _ _)
  refine ⟨next, ?_, by rw [hgoes.clock, clock_wind]⟩
  rw [answer, wind_eq]
  exact hon

/-- A script on a rig is the script on the machine, whose clock goes on from one action to the
next unless the host sets it. -/
theorem after_eq {setup : Machine.Setup} (hm : Machine.MadeFrom setup m) (around : Around)
    (script : List Request) :
    ∃ last, (Bench.mk m.rig around).after script =
      ⟨(m.after (m.turns around.clock script)).rig, last⟩ := by
  -- after each request the machine and what is around it are others
  induction script generalizing m around with
  | nil => exact ⟨around, rfl⟩
  | cons r rest ih =>
    obtain ⟨next, hanswer, hclock⟩ := answer_eq hm around r
    obtain ⟨last, hlast⟩ := ih (hm.performed (r.clock.getD around.clock) r.action) next
    refine ⟨last, ?_⟩
    rw [after_cons, hanswer, hlast, hclock]
    rfl

end Bench

end SuperChip
