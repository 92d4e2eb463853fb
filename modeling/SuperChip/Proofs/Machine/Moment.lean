import SuperChip.Proofs.Core.Fault
import SuperChip.Proofs.Core.Frame
import SuperChip.Proofs.Machine.Script

/-!
# The steps of a script

A script makes a machine take steps, one at a time or many in a run. Here they stand in a row, each
with the machine that takes it, so that what a step is told about can be said of all of them.

- `Machine.Moment`: a step that a running machine takes.
- `Machine.moments`: the steps that a script makes a machine take, in order.
- `Machine.Starts`: a machine that is about to start a program.
- `moments_preserve`: **what every step and every other action keeps, a script keeps**, also where
  it speaks of the steps that were taken so far.
- `Machine.Leads`: a script leads from one machine to another by way of so many steps;
  `exists_script_of_moment`: a step is always the next one after a shorter script.
- `Moment.Failed`, `Moment.Completed`: the ways that a step ends; `Moment.ends`: **there is no
  other**.
-/

namespace SuperChip

/-- The actions that make a machine take steps. -/
def Action.takesSteps : Action → Bool
  | step | run _ => true
  | _ => false

/-- The actions that put a machine back to the start of a program. -/
def Action.restarts : Action → Bool
  | load _ | reset => true
  | _ => false

/-- The actions that write to the memory. -/
def Action.pokes : Action → Bool
  | poke .. => true
  | _ => false

/-- The processor after both timers have looked at the clock, one after the other. -/
def Core.tickedOn (c : Core) (clock : Clock) : Core :=
  { c with timers := c.timers.tickAt (clock 0) (clock 1) }

/-- What is found at the program counter is written with the word there. -/
theorem Core.ofWord_of_peek {c : Core} (h : c.InRange) {d : Decoded} (hd : c.peek = .ok d) :
    Decoded.ofWord c.word = .ok d := by
  have hpc := Int.not_lt.2 (pc_le_of_peek hd)
  rwa [peek_eq h, if_neg hpc] at hd

/-- A step of the processor meets a fault and changes nothing, or completes and changes what its
instruction names. -/
theorem Core.step_stops_or_touches {c : Core} (h : c.InRange) (keys : Keys) :
    (∃ f, c.obstacle? = some f ∧ c.step keys = (.error (.fault f), c)) ∨
      ∃ d c', c.peek = .ok d ∧ c.Touches keys d.instruction c' ∧ c.step keys = (.ok d, c') := by
  cases ho : c.obstacle? with
  | some f => exact .inl ⟨f, rfl, step_of_obstacle h keys ho⟩
  | none =>
    obtain ⟨d, -, hd⟩ := step_of_no_obstacle h keys ho
    obtain ⟨f, hf⟩ | ⟨d', hpeek, hi, hs⟩ := step_cases h keys
    · cases hd.symm.trans hf
    · exact .inr ⟨d', _, hpeek, touches_effect keys h hi, hs⟩

namespace Machine

/-- A step that a running machine takes: the machine before it and the clock that it looks at. -/
structure Moment where
  before : Machine
  clock : Clock

namespace Moment

/-- The machine after the step. -/
def after (q : Moment) : Machine := (q.before.stepOn q.clock).machine

/-- What is told about the step. -/
def result (q : Moment) : Except Stop StepResult := (q.before.stepOn q.clock).result

/-- The instruction that the step completes. -/
def completed? (q : Moment) : Option Decoded := q.result.toOption.bind (·.instruction)

/-- The fault that the step meets. -/
def fault? (q : Moment) : Option Fault := q.result.toOption.bind (·.error)

/-- The processor once its timers have looked at the clock. -/
def ticked (q : Moment) : Core := q.before.core.tickedOn q.clock

end Moment

/-! ## The steps of runs, actions and scripts -/

/-- The steps of a run, of which there are so many at the most. -/
def momentsOfRun : Nat → Clock → Machine → List Moment
  | 0, _, _ => []
  | limit + 1, clock, m =>
    if m.isHalted then []
    else ⟨m, clock⟩ :: match (m.stepOn clock).result with
      | .error _ => []
      | .ok _ => momentsOfRun limit clock.later (m.stepOn clock).machine

/-- The steps that an action makes a running machine take. -/
def momentsOf (m : Machine) (clock : Clock) : Action → List Moment
  | .step => if m.isHalted then [] else [⟨m, clock⟩]
  | .run limit => momentsOfRun limit.toNat clock m
  | _ => []

/-- The steps that a script makes a running machine take. -/
def moments (m : Machine) : List (Clock × Action) → List Moment
  | [] => []
  | (clock, a) :: rest => m.momentsOf clock a ++ (m.respond clock a).machine.moments rest

variable {m : Machine} {clock : Clock}

/-- A history is run in parts. -/
theorem after_append (history later : List (Clock × Action)) :
    m.after (history ++ later) = (m.after history).after later :=
  List.foldl_append

/-- The moments of a history are those of its parts. -/
theorem moments_append (history later : List (Clock × Action)) :
    m.moments (history ++ later) = m.moments history ++ (m.after history).moments later := by
  induction history generalizing m with
  | nil => rfl
  | cons turn rest ih =>
    rw [List.cons_append, moments, moments, ih, List.append_assoc]
    rfl

theorem momentsOf_of_running (h : m.status = .running) :
    m.momentsOf clock .step = [⟨m, clock⟩] := by
  rw [momentsOf, (m.isHalted_eq_false_iff).2 h, if_neg Bool.false_ne_true]

theorem momentsOf_of_halted (h : m.isHalted) : m.momentsOf clock .step = [] := by
  rw [momentsOf, if_pos h]

/-- The other actions take no steps. -/
theorem momentsOf_eq_nil {a : Action} (ha : a.takesSteps = false) : m.momentsOf clock a = [] := by
  cases a with
  | step | run => cases ha
  | _ => rfl

/-! ## The other actions -/

section

variable (clock)

/-- Using the keypad changes the keypad only. -/
theorem exists_respond_eq_of_usesKeypad {a : Action} (ha : a.usesKeypad = true) :
    ∃ keypad, (m.respond clock a).machine = { m with keypad := keypad } := by
  cases a with
  | press | release | pressKey | releaseKey =>
    rw [respond, machine_useKeypad]
    unfold withKeypad
    split
    · exact ⟨_, rfl⟩
    · exact ⟨m.keypad, rfl⟩
  | releaseAll => exact ⟨_, rfl⟩
  | _ => cases ha

/-- What neither steps nor restarts a machine leaves its processor, apart from the memory, and that
too unless it writes there. -/
theorem exists_core_respond {a : Action} (hsteps : a.takesSteps = false)
    (hrestarts : a.restarts = false) :
    ∃ memory, (m.respond clock a).machine.core = { m.core with memory := memory } ∧
      (a.pokes = false → memory = m.core.memory) := by
  cases ha : a.usesKeypad with
  | true =>
    obtain ⟨keypad, h⟩ := exists_respond_eq_of_usesKeypad (m := m) clock ha
    exact ⟨m.core.memory, by rw [h], fun _ => rfl⟩
  | false =>
    cases a with
    | halt reason => exact ⟨m.core.memory, core_stop _, fun _ => rfl⟩
    | poke address bytes =>
      rw [machine_poke]
      unfold poke
      split
      · exact ⟨_, rfl, nofun⟩
      · exact ⟨m.core.memory, rfl, fun _ => rfl⟩
    | load | reset => cases hrestarts
    | step | run => cases hsteps
    | _ => cases ha

/-- It leaves all of the processor if it does not write to the memory. -/
theorem core_respond {a : Action} (hsteps : a.takesSteps = false) (hrestarts : a.restarts = false)
    (hpokes : a.pokes = false) : (m.respond clock a).machine.core = m.core := by
  obtain ⟨memory, hcore, hmemory⟩ := exists_core_respond (m := m) clock hsteps hrestarts
  rw [hcore, hmemory hpokes]

/-- Only steps and restarts change the registers. -/
theorem registers_respond {a : Action} (hsteps : a.takesSteps = false)
    (hrestarts : a.restarts = false) :
    (m.respond clock a).machine.core.registers = m.core.registers := by
  obtain ⟨memory, h, -⟩ := exists_core_respond (m := m) clock hsteps hrestarts
  rw [h]

/-- A restart puts the processor back to where a program starts. -/
theorem exists_core_respond_of_restarts {a : Action} (ha : a.restarts = true) :
    ∃ program timers random, (m.respond clock a).machine.core = .start program timers random := by
  cases a with
  | load program =>
    show ∃ program' timers random,
      (m.loadOn clock program).value.1.core = .start program' timers random
    unfold loadOn install
    split
    · exact ⟨_, _, _, core_stop _⟩
    · exact ⟨_, _, _, rfl⟩
  | reset => exact ⟨_, _, _, rfl⟩
  | _ => cases ha

theorem registers_respond_of_restarts {a : Action} (ha : a.restarts = true) :
    (m.respond clock a).machine.core.registers = .initial := by
  obtain ⟨program, timers, random, h⟩ := exists_core_respond_of_restarts (m := m) clock ha
  rw [h]
  rfl

/-- What neither steps nor restarts a machine changes its status only if the host halts it while it
runs. -/
theorem status_respond {a : Action} (hsteps : a.takesSteps = false)
    (hrestarts : a.restarts = false) :
    (m.respond clock a).machine.status = m.status ∨
      ∃ reason, a = .halt reason ∧ m.status = .running ∧
        (m.respond clock a).machine.status = .halted (.host reason) := by
  cases hkeypad : a.usesKeypad with
  | true =>
    obtain ⟨keypad, h⟩ := exists_respond_eq_of_usesKeypad (m := m) clock hkeypad
    exact .inl (by rw [h])
  | false =>
    cases a with
    | halt reason =>
      cases hstatus : m.status with
      | running => exact .inr ⟨reason, rfl, rfl, congrArg Machine.status (value_stop hstatus _)⟩
      | halted cause =>
        left
        show (m.stop (.host reason)).value.status = _
        rw [stop, if_pos (isHalted_of_status hstatus), ← hstatus]
        rfl
    | poke address bytes =>
      left
      rw [machine_poke]
      unfold poke
      split <;> rfl
    | load | reset => cases hrestarts
    | step | run => cases hsteps
    | _ => cases hkeypad

/-- A restart lets the machine run, unless the program is too large. -/
theorem status_respond_of_restarts {a : Action} (ha : a.restarts = true) :
    (m.respond clock a).machine.status = .running ∨
      ∃ size, (m.respond clock a).machine.status = .halted (.fault (.programTooLarge size)) := by
  cases a with
  | load program =>
    show (m.loadOn clock program).value.1.status = _ ∨
      ∃ size, (m.loadOn clock program).value.1.status = .halted (.fault (.programTooLarge size))
    unfold loadOn install
    split
    · exact .inr ⟨_, congrArg Machine.status (value_fail rfl _)⟩
    · exact .inl rfl
  | reset => exact .inl rfl
  | _ => cases ha

theorem trace_stop (cause : Cause) : (m.stop cause).value.trace = m.trace := by
  unfold stop
  split <;> rfl

/-- Only steps are recorded, and nothing takes a record away. -/
theorem trace_respond {a : Action} (ha : a.takesSteps = false) :
    (m.respond clock a).machine.trace = m.trace := by
  cases hkeypad : a.usesKeypad with
  | true =>
    obtain ⟨keypad, h⟩ := exists_respond_eq_of_usesKeypad (m := m) clock hkeypad
    rw [h]
  | false =>
    cases a with
    | load program =>
      show (m.loadOn clock program).value.1.trace = _
      unfold loadOn install
      split
      · exact trace_stop _
      · rfl
    | halt reason => exact trace_stop _
    | poke address bytes =>
      rw [machine_poke]
      unfold poke
      split <;> rfl
    | reset => rfl
    | step | run => cases ha
    | _ => cases hkeypad

end

/-! ## Machines with a program that was just loaded -/

/-- A machine that is about to start a program. -/
structure Starts (m : Machine) (program : List UInt8) : Prop where
  running : m.status = .running
  core_eq : ∃ timers random, m.core = .start program timers random

section

variable {program : List UInt8}

/-- A machine that was loaded starts its program. -/
theorem starts_loadOn (m : Machine) (clock : Clock) (h : program.length ≤ programCapacity) :
    (m.loadOn clock program).value.1.Starts program := by
  rw [loadOn_of_le clock h]
  exact ⟨rfl, _, _, rfl⟩

/-- The sample machine with a program is switched on and loaded with it. -/
theorem exists_switchOn_sample (program : List UInt8) :
    ∃ o, switchOn sampleSetup (.still 0) false = .ok o ∧
      o.value.after [(.still 0, .load program)] = sample program :=
  ⟨_, (switchOn_still _ _ _).trans (create_sampleSetup 0), rfl⟩

theorem madeFrom_sample (program : List UInt8) : MadeFrom sampleSetup (sample program) := by
  obtain ⟨o, hon, hloaded⟩ := exists_switchOn_sample program
  exact hloaded ▸ (MadeFrom.switchedOn hon).after _

theorem keypad_sample (program : List UInt8) : (sample program).keypad = .ofBindings [] :=
  keypad_install _ program

theorem starts_sample (h : program.length ≤ programCapacity) : (sample program).Starts program :=
  starts_loadOn _ (.still 0) h

/-- A machine that starts has its initial registers. -/
theorem Starts.registers_eq (h : m.Starts program) : m.core.registers = .initial := by
  obtain ⟨timers, random, hcore⟩ := h.core_eq
  rw [hcore]
  rfl

/-- It holds its program in memory. -/
theorem Starts.holds (h : m.Starts program) (hfit : program.length ≤ programCapacity) :
    m.core.Holds program := by
  obtain ⟨timers, random, hcore⟩ := h.core_eq
  rw [hcore]
  exact Core.holds_start hfit timers random

/-- Its first instruction is that of the first two bytes. -/
theorem Starts.peek_eq {high low : UInt8} (h : m.Starts (high :: low :: program)) :
    m.core.peek = Decoded.ofWord (Memory.wordOf high low) := by
  obtain ⟨timers, random, hcore⟩ := h.core_eq
  rw [hcore]
  exact Core.peek_start _ _ _ _ _

end

/-! ## What a script keeps -/

section

variable {P : Machine → List Moment → Prop} {past : List Moment}
  (hstep : ∀ {past} (q : Moment), q.before.status = .running → P q.before past →
    P q.after (past ++ [q]))

include hstep

/-- What every step keeps, a run keeps. -/
theorem momentsOfRun_preserve (h : P m past) (clock : Clock) (limit : Nat) :
    P (runStepsOn limit clock m).machine (past ++ momentsOfRun limit clock m) := by
  induction limit generalizing m past clock with
  | zero => rwa [runStepsOn, momentsOfRun, List.append_nil]
  | succ limit ih =>
    unfold runStepsOn momentsOfRun
    by_cases hhalted : m.isHalted
    · rwa [if_pos hhalted, if_pos hhalted, List.append_nil]
    · have hrun := (m.isHalted_eq_false_iff).1 (Bool.eq_false_iff.2 hhalted)
      have hnext : P (m.stepOn clock).machine _ := hstep ⟨m, clock⟩ hrun h
      rw [if_neg hhalted, if_neg hhalted]
      cases hresult : (m.stepOn clock).result with
      | error e => simpa only [hresult] using hnext
      | ok r =>
        have hrest := ih hnext clock.later
        rw [List.append_assoc, List.singleton_append] at hrest
        simpa only [hresult] using hrest

/-- **What every step and every other action keeps, a script keeps.** It may speak of the steps that
were taken so far. -/
theorem moments_preserve {A : Action → Prop}
    (hother : ∀ {m past} clock a, A a → a.takesSteps = false → P m past →
      P (m.respond clock a).machine past)
    (h : P m past) {history : List (Clock × Action)} (hA : ∀ turn ∈ history, A turn.2) :
    P (m.after history) (past ++ m.moments history) := by
  induction history generalizing m past with
  | nil => rwa [after_nil, moments, List.append_nil]
  | cons turn rest ih =>
    obtain ⟨clock, a⟩ := turn
    have hturn : P (m.respond clock a).machine (past ++ m.momentsOf clock a) := by
      cases a with
      | step =>
        cases hstatus : m.status with
        | halted cause =>
          have hhalted := isHalted_of_status hstatus
          have hsame : (m.respond clock .step).machine = m :=
            congrArg Stepped.machine (stepAt_of_halted hhalted _ _)
          rwa [hsame, momentsOf_of_halted hhalted, List.append_nil]
        | running =>
          rw [momentsOf_of_running hstatus]
          exact hstep ⟨m, clock⟩ hstatus h
      | run limit => exact momentsOfRun_preserve hstep h clock limit.toNat
      | _ =>
        rw [momentsOf_eq_nil rfl, List.append_nil]
        exact hother clock _ (hA _ (.head _)) rfl h
    have hrest := ih hturn fun t ht => hA t (.tail _ ht)
    rwa [List.append_assoc] at hrest

end

/-- What every step and every other action keeps of a machine, a script keeps. -/
theorem after_preserve {P : Machine → Prop} {A : Action → Prop}
    (hstep : ∀ q : Moment, q.before.status = .running → P q.before → P q.after)
    (hother : ∀ {m : Machine} clock a, A a → a.takesSteps = false → P m →
      P (m.respond clock a).machine)
    (h : P m) {history : List (Clock × Action)} (hA : ∀ turn ∈ history, A turn.2) :
    P (m.after history) :=
  @moments_preserve m (fun m' _ => P m') [] (fun q hrun hq => hstep q hrun hq) A
    (fun clock a ha hsteps hm => hother clock a ha hsteps hm) h history hA

/-- The steps are those of machines that come out of the setup, too. -/
theorem MadeFrom.after_preserve {setup : Setup} (hm : MadeFrom setup m) {P : Machine → Prop}
    {A : Action → Prop}
    (hstep : ∀ q : Moment, MadeFrom setup q.before → q.before.status = .running → P q.before →
      P q.after)
    (hother : ∀ {m : Machine} clock a, A a → a.takesSteps = false → P m →
      P (m.respond clock a).machine)
    (h : P m) {history : List (Clock × Action)} (hA : ∀ turn ∈ history, A turn.2) :
    P (m.after history) := by
  suffices hboth : MadeFrom setup (m.after history) ∧ P (m.after history) from hboth.2
  refine Machine.after_preserve (P := fun n => MadeFrom setup n ∧ P n) ?_ ?_ ⟨hm, h⟩ hA
  · rintro q hrun ⟨hq, hP⟩
    exact ⟨hq.performed q.clock .step, hstep q hq hrun hP⟩
  · rintro n clock a ha hsteps ⟨hn, hP⟩
    exact ⟨hn.performed clock a, hother clock a ha hsteps hP⟩

/-- A script of allowed actions leads from one machine to another, and takes the listed steps. -/
def Leads (A : Action → Prop) (m : Machine) (past : List Moment) (m' : Machine) : Prop :=
  ∃ history, (∀ turn ∈ history, A turn.2) ∧ m.after history = m' ∧ m.moments history = past

variable {A : Action → Prop} {m' : Machine} {past : List Moment}

/-- A way is gone on by a step. -/
theorem Leads.step (hstep : A .step) {q : Moment} (h : m.Leads A past q.before)
    (hrun : q.before.status = .running) : m.Leads A (past ++ [q]) q.after := by
  obtain ⟨history, hA, hbefore, rfl⟩ := h
  refine ⟨history ++ [(q.clock, .step)], ?_, ?_, ?_⟩
  · intro turn hturn
    obtain hturn | hturn := List.mem_append.1 hturn
    · exact hA turn hturn
    · rw [List.mem_singleton.1 hturn]
      exact hstep
  · rw [after_append, hbefore]
    rfl
  · rw [moments_append, hbefore, moments, momentsOf_of_running hrun]
    rfl

/-- An action that takes no step leaves the moments of a way alone. -/
theorem Leads.other (h : m.Leads A past m') (clock : Clock) {a : Action} (ha : A a)
    (hother : a.takesSteps = false) : m.Leads A past (m'.respond clock a).machine := by
  obtain ⟨history, hA, rfl, rfl⟩ := h
  refine ⟨history ++ [(clock, a)], ?_, ?_, ?_⟩
  · intro turn hturn
    obtain hturn | hturn := List.mem_append.1 hturn
    · exact hA turn hturn
    · rw [List.mem_singleton.1 hturn]
      exact ha
  · rw [after_append]
    rfl
  · rw [moments_append, moments, momentsOf_eq_nil hother]
    exact List.append_nil _

/-- **A step is the next one after a shorter script**, which takes the steps before it. -/
theorem exists_script_of_moment (hstep : A .step) {history : List (Clock × Action)}
    (hA : ∀ turn ∈ history, A turn.2) {q : Moment}
    (hq : past ++ [q] <+: m.moments history) :
    q.before.status = .running ∧ m.Leads A past q.before := by
  let P (m' : Machine) (taken : List Moment) : Prop :=
    m.Leads A taken m' ∧ ∀ past q, past ++ [q] <+: taken →
      q.before.status = .running ∧ m.Leads A past q.before
  suffices h : P (m.after history) ([] ++ m.moments history) from h.2 past q hq
  refine moments_preserve (P := P) ?_ ?_ ⟨⟨[], by simp, rfl, rfl⟩, ?_⟩ hA
  · rintro taken q hrun ⟨hleads, hbefore⟩
    refine ⟨hleads.step hstep hrun, fun past p hprefix => ?_⟩
    obtain heq | hprefix := List.prefix_concat_iff.1 hprefix
    · obtain ⟨rfl, hlast⟩ := List.append_inj' heq rfl
      cases hlast
      exact ⟨hrun, hleads⟩
    · exact hbefore past p hprefix
  · rintro m' taken clock a ha hother ⟨hleads, hbefore⟩
    exact ⟨hleads.other clock ha hother, hbefore⟩
  · intro past q hprefix
    exact absurd (List.prefix_nil.1 hprefix) (by simp)

/-- What a way leads to is made from the same setup. -/
theorem Leads.madeFrom {setup : Setup} (hm : MadeFrom setup m) (h : m.Leads A past m') :
    MadeFrom setup m' := by
  obtain ⟨history, -, rfl, -⟩ := h
  exact hm.after history

/-! ## One step -/

namespace Moment

/-- A step meets a fault, which leaves the processor as it was but for its timers. -/
structure Failed (q : Moment) (f : Fault) : Prop where
  obstacle : q.ticked.obstacle? = some f
  after_eq : q.after =
    { q.before with core := q.ticked, status := .halted (.fault f) }.noted
      q.before.core.registers none (some f)
  result_eq : q.result = .ok ⟨.halted (.fault f), none, false, some f⟩

/-- A step completes an instruction, which leaves a processor behind. -/
structure Completed (q : Moment) (d : Decoded) (c : Core) : Prop where
  peek : q.before.core.peek = .ok d
  touches : q.ticked.Touches q.before.keypad.snapshot d.instruction c
  after_eq : q.after =
    { q.before with core := c, status := c.verdict, steps := q.before.steps + 1 }.noted
      q.before.core.registers (some d) c.verdict.fault?
  result_eq : q.result =
    .ok ⟨c.verdict, some d, c.waiting && c.verdict.fault?.isNone, c.verdict.fault?⟩

/-- The two ways that a step ends. -/
inductive Ends (q : Moment) : Prop
  | failed (f : Fault) (h : q.Failed f)
  | completed (d : Decoded) (c : Core) (h : q.Completed d c)

variable {q : Moment} {f : Fault} {d : Decoded} {c : Core}

theorem inRange_ticked (h : q.before.core.InRange) : q.ticked.InRange :=
  ⟨h.pc_nonneg, h.sp_nonneg, h.sp_le, h.screen⟩

/-- A step of the processor that completes is what becomes of the machine. -/
theorem completed_of_step (hrange : q.before.core.InRange) (hrun : q.before.status = .running)
    (hs : q.ticked.step q.before.keypad.snapshot = (.ok d, c)) : q.Completed d c := by
  have hproceed : q.before.stepOn q.clock =
      proceed (q.before.tickAt (q.clock 0) (q.clock 1)) := stepAt_of_running hrun _ _
  obtain ⟨hm, hr⟩ := proceed_of_completed (t := q.before.tickAt (q.clock 0) (q.clock 1)) hrun hs
  obtain ⟨f, hf⟩ | ⟨d', hpeek, hi, hs'⟩ :=
    Core.step_cases (inRange_ticked hrange) q.before.keypad.snapshot
  · cases hf.symm.trans hs
  · cases hs'.symm.trans hs
    exact ⟨hpeek, Core.touches_effect _ (inRange_ticked hrange) hi,
      by rw [after, hproceed, hm]; rfl, by rw [result, hproceed, hr]⟩

/-- An instruction that meets no fault completes with its effect. -/
theorem completed_of_peek (hrange : q.before.core.InRange) (hrun : q.before.status = .running)
    (hpeek : q.before.core.peek = .ok d) (hi : d.instruction.refusal? q.ticked = none) :
    q.Completed d (q.ticked.effect q.before.keypad.snapshot d.instruction) := by
  have hticked : q.ticked.peek = .ok d := hpeek
  refine completed_of_step hrange hrun ?_
  simp only [Core.step_eq (inRange_ticked hrange), hticked, hi]

/-- An obstacle is what fails a step. -/
theorem failed_of_obstacle (hrange : q.before.core.InRange) (hrun : q.before.status = .running)
    (ho : q.ticked.obstacle? = some f) : q.Failed f := by
  have hproceed : q.before.stepOn q.clock =
      proceed (q.before.tickAt (q.clock 0) (q.clock 1)) := stepAt_of_running hrun _ _
  have hs := Core.step_of_obstacle (inRange_ticked hrange) q.before.keypad.snapshot ho
  obtain ⟨hm, hr⟩ := proceed_of_fault (t := q.before.tickAt (q.clock 0) (q.clock 1)) hrun hs
  exact ⟨ho, by rw [after, hproceed, hm]; rfl, by rw [result, hproceed, hr]⟩

/-- **There is no other way.** -/
theorem ends (q : Moment) (hrange : q.before.core.InRange) (hrun : q.before.status = .running) :
    q.Ends := by
  obtain ⟨f, ho, -⟩ | ⟨d, c, -, -, hs⟩ :=
    Core.step_stops_or_touches (inRange_ticked hrange) q.before.keypad.snapshot
  · exact .failed f (failed_of_obstacle hrange hrun ho)
  · exact .completed d c (completed_of_step hrange hrun hs)

theorem Failed.completed?_eq_none (h : q.Failed f) : q.completed? = none := by
  rw [completed?, h.result_eq]
  rfl

/-- A failed step has met its fault. -/
theorem Failed.fault?_eq_some (h : q.Failed f) : q.fault? = some f := by
  rw [fault?, h.result_eq]
  rfl

/-- A failed step leaves the processor as the timers left it. -/
theorem Failed.core_after (h : q.Failed f) : q.after.core = q.ticked := by
  rw [h.after_eq]
  rfl

/-- A failed step halts the machine because of its fault. -/
theorem Failed.status_after (h : q.Failed f) : q.after.status = .halted (.fault f) := by
  rw [h.after_eq]
  rfl

theorem Failed.registers_after (h : q.Failed f) :
    q.after.core.registers = q.before.core.registers := by
  rw [h.after_eq]
  rfl

/-- A completed step has completed its instruction. -/
theorem Completed.completed?_eq_some (h : q.Completed d c) : q.completed? = some d := by
  rw [completed?, h.result_eq]
  rfl

theorem Completed.fault?_eq (h : q.Completed d c) : q.fault? = c.verdict.fault? := by
  rw [fault?, h.result_eq]
  rfl

/-- A completed step leaves the processor as its instruction left it. -/
theorem Completed.core_after (h : q.Completed d c) : q.after.core = c := by
  rw [h.after_eq]
  rfl

/-- After a completed step the verdict on the processor is the status. -/
theorem Completed.status_after (h : q.Completed d c) : q.after.status = c.verdict := by
  rw [h.after_eq]
  rfl

/-- A step that completes is one of the processor that completes. -/
theorem Completed.step_eq (h : q.Completed d c) (hrange : q.before.core.InRange)
    (hrun : q.before.status = .running) :
    q.ticked.step q.before.keypad.snapshot = (.ok d, c) := by
  obtain ⟨f, ho, -⟩ | ⟨d', c', -, -, hs⟩ :=
    Core.step_stops_or_touches (inRange_ticked hrange) q.before.keypad.snapshot
  · have hfailed := (failed_of_obstacle hrange hrun ho).completed?_eq_none
    cases hfailed.symm.trans h.completed?_eq_some
  · have h' := completed_of_step hrange hrun hs
    cases h.completed?_eq_some.symm.trans h'.completed?_eq_some
    rw [hs, ← h.core_after, h'.core_after]

/-- Only one instruction ends the program. -/
theorem Completed.going (h : q.Completed d c) (hexit : q.before.core.exited = false)
    (hd : d.instruction ≠ .exit) : c.exited = false :=
  (h.touches.exited hd).trans hexit

/-- The machine goes on unless that happens or the program counter leaves the memory. -/
theorem Completed.running_after (h : q.Completed d c) (hexit : q.before.core.exited = false)
    (hd : d.instruction ≠ .exit) (hpc : c.registers.pc ≤ 0xFFF) : q.after.status = .running :=
  h.status_after.trans (Core.verdict_eq_running_iff.2 ⟨h.going hexit hd, hpc⟩)

/-- A step completes the instruction that it comes to if that one meets no fault. -/
theorem Ends.exists_completed (h : q.Ends) (hrange : q.before.core.InRange)
    (hpeek : q.before.core.peek = .ok d) (hi : d.instruction.refusal? q.ticked = none) :
    ∃ c, q.Completed d c := by
  cases h with
  | failed f h =>
    have hfault := Core.step_of_obstacle (inRange_ticked hrange) q.before.keypad.snapshot h.obstacle
    have hpeek' : q.ticked.peek = .ok d := hpeek
    simp only [Core.step_eq (inRange_ticked hrange), hpeek', hi] at hfault
    cases hfault
  | completed d' c h =>
    cases hpeek.symm.trans h.peek
    exact ⟨c, h⟩

end Moment

/-- A step always has a result. -/
theorem exists_stepOn (hrange : m.core.InRange) (clock : Clock) :
    ∃ r, (m.stepOn clock).result = .ok r := by
  cases hstatus : m.status with
  | halted cause =>
    rw [stepOn, stepAt_of_halted (isHalted_of_status hstatus)]
    exact ⟨_, rfl⟩
  | running =>
    cases (Moment.mk m clock).ends hrange hstatus with
    | failed f h => exact ⟨_, h.result_eq⟩
    | completed d c h => exact ⟨_, h.result_eq⟩

/-- A run takes no more steps than it may. -/
theorem exists_taken (h : m.WellFormed) (clock : Clock) (limit : Nat) :
    ∃ n ≤ limit, (runStepsOn limit clock m).taken = .ok n := by
  -- after each step both the machine and the clock are others
  induction limit generalizing m clock with
  | zero => exact ⟨0, Nat.le_refl 0, rfl⟩
  | succ limit ih =>
    unfold runStepsOn
    split
    · exact ⟨0, Nat.zero_le _, rfl⟩
    · obtain ⟨r, hr⟩ := exists_stepOn h.core.toInRange clock
      have hnext : (m.stepOn clock).machine.WellFormed := h.stepAt _ _
      obtain ⟨n, hn, htaken⟩ := ih hnext clock.later
      refine ⟨n + 1, Nat.succ_le_succ hn, ?_⟩
      simp only [hr, htaken]
      rfl

/-! ## Straight lines of a program -/

/-- A running machine stands at a place of a program that is in its memory. -/
structure StandsAt (m : Machine) (program : List UInt8) (k : Nat) : Prop where
  reached : m.Reached
  running : m.status = .running
  holds : m.core.Holds program
  pc : m.core.registers.pc = (Memory.programStart + k : Nat)

/-- An instruction that always completes, stores nothing and goes on at the next word. -/
structure Straight (i : Instruction) : Prop where
  refusal?_eq_none : ∀ c, i.refusal? c = none
  nextPc_eq : ∀ c keys, Core.nextPc c keys i = c.registers.pc + 2
  storedLength_eq : i.storedLength = 0
  ne_exit : i ≠ .exit

section

variable {program : List UInt8} {k : Nat} {d : Decoded}

theorem standsAt_sample (h : program.length ≤ programCapacity) :
    (sample program).StandsAt program 0 where
  reached := reached_sample program
  running := (starts_sample h).running
  holds := (starts_sample h).holds h
  pc := by
    rw [(starts_sample h).registers_eq]
    rfl

/-- The step there completes the instruction that the program has there. -/
theorem StandsAt.completed (h : m.StandsAt program k) (clock : Clock)
    (hfit : program.length ≤ programCapacity) (hk : k + 1 < program.length)
    (hd : Decoded.ofWord (Memory.wordOf program[k] program[k + 1]) = .ok d)
    (hi : d.instruction.refusal? (Moment.mk m clock).ticked = none) :
    (Moment.mk m clock).Completed d
      ((Moment.mk m clock).ticked.effect m.keypad.snapshot d.instruction) := by
  have hrange : m.core.InRange := h.reached.wellFormed.core.toInRange
  exact Moment.completed_of_peek hrange h.running
    ((h.holds.peek_eq hrange hfit hk h.pc).trans hd) hi

/-- A straight instruction leads to the next one. -/
theorem StandsAt.next (h : m.StandsAt program k) (now : Float)
    (hfit : program.length ≤ programCapacity) (hk : k + 2 < program.length)
    (hd : Decoded.ofWord (Memory.wordOf program[k] program[k + 1]) = .ok d)
    (hi : Straight d.instruction) :
    (Moment.mk m (.still now)).Completed d
        ((Moment.mk m (.still now)).ticked.effect m.keypad.snapshot d.instruction) ∧
      (Moment.mk m (.still now)).after.StandsAt program (k + 2) := by
  have hc := h.completed (.still now) hfit (Nat.lt_of_succ_lt hk) hd (hi.refusal?_eq_none _)
  have hpc : (Moment.mk m (.still now)).after.core.registers.pc =
      (Memory.programStart + (k + 2) : Nat) := by
    rw [hc.core_after, Core.effect_pc, hi.nextPc_eq]
    show m.core.registers.pc + 2 = _
    rw [h.pc]
    rfl
  refine ⟨hc, h.reached.performed now (a := .step) trivial, ?_, ?_, hpc⟩
  · refine hc.running_after (h.reached.wellFormed.not_exited h.running) hi.ne_exit ?_
    rw [← hc.core_after, hpc]
    simp only [Memory.programStart, programCapacity] at hfit ⊢
    omega
  · rw [hc.core_after]
    refine hc.touches.holds h.holds ?_
    rintro ⟨a, hfrom, hto, -⟩
    rw [hi.storedLength_eq] at hto
    exact absurd hto (Nat.not_lt.2 hfrom)

end

end Machine

end SuperChip
