import SuperChip.Machine.Clock
import SuperChip.Proofs.Core.Devices
import SuperChip.Proofs.Machine.History

/-!
# Machines under a script

A host works on a machine by a script of actions, each at a clock of its own, and is told something
after each of them.

- `Answer`: what a host is told about an action.
- `Machine.respond`: what an action makes of a machine, on a clock that may move meanwhile.
- `Machine.after`: what a whole history of actions makes of a machine.
- `runStepsOn_preserves`: what a step preserves, a run preserves.
- `keypad_respond`, `program_respond`: which actions change the keypad and the remembered program.
- `Machine.MadeFrom`: the machines that come out of a setup, whatever was done with them;
  `switchOn_eq_ok_iff` is how they start.
- `MadeFrom.keeps`: **no host leaves the invariant, and none changes the period of the timers**.
-/

namespace SuperChip

/-- The actions that use the keypad. -/
def Action.usesKeypad : Action → Bool
  | press _ | release _ | pressKey .. | releaseKey .. | releaseAll => true
  | _ => false

/-- The actions that give the machine another program. -/
def Action.loads : Action → Bool
  | load _ => true
  | _ => false

/-- What a host is told about an action. -/
inductive Answer where
  | done
  | loaded (result : LoadResult)
  | stepped (result : Except Stop StepResult)
  | ran (taken : Except Stop Nat)
  /-- Whether the key of the host is bound, or why there is no such key. -/
  | keyed (bound : Except Invalid Bool)
  /-- Whether the memory took the bytes. -/
  | poked (refusal : Option Fault)

/-- What an action leaves behind. -/
structure Performed where
  machine : Machine
  answer : Answer
  events : List Event

namespace Machine

/-- The keypad is used. If it refuses the machine stays as it was. -/
def useKeypad (m : Machine) : Except Invalid (Observed (Keypad × Bool)) → Performed
  | .ok used => ⟨{ m with keypad := used.value.1 }, .keyed (.ok used.value.2), used.events⟩
  | .error e => ⟨m, .keyed (.error e), []⟩

/-- The memory is replaced, unless the bytes did not fit. -/
def putMemory (m : Machine) : Except Fault Ram → Performed
  | .ok memory => ⟨{ m with core := { m.core with memory := memory } }, .poked none, []⟩
  | .error f => ⟨m, .poked (some f), []⟩

/-- What an action makes of a machine and what the host is told, on a clock that may move
meanwhile. -/
def respond (m : Machine) (clock : Clock) : Action → Performed
  | .load program =>
    let loaded := m.loadOn clock program
    ⟨loaded.value.1, .loaded loaded.value.2, loaded.events⟩
  | .reset => ⟨(m.resetOn clock).value, .done, (m.resetOn clock).events⟩
  | .step => ⟨(m.stepOn clock).machine, .stepped (m.stepOn clock).result, (m.stepOn clock).events⟩
  | .run limit =>
    let ran := m.runOn clock limit
    ⟨ran.machine, .ran ran.taken, ran.events⟩
  | .halt reason => ⟨(m.halt reason).value, .done, (m.halt reason).events⟩
  | .press name => m.useKeypad (m.keypad.press name)
  | .release name => m.useKeypad (m.keypad.release name)
  | .pressKey key source => m.useKeypad ((m.keypad.pressKey key source).map (·.map (·, true)))
  | .releaseKey key source => m.useKeypad ((m.keypad.releaseKey key source).map (·.map (·, true)))
  | .releaseAll => ⟨{ m with keypad := m.keypad.reset }, .done, []⟩
  | .poke address bytes => m.putMemory (m.core.memory.write address bytes)

theorem machine_useKeypad (m : Machine) (attempt : Except Invalid (Observed (Keypad × Bool))) :
    (m.useKeypad attempt).machine = m.withKeypad (attempt.map (·.value.1)) := by
  cases attempt with
  | ok used => rfl
  | error e => rfl

theorem machine_poke (m : Machine) (clock : Clock) (address : Int) (bytes : List UInt8) :
    (m.respond clock (.poke address bytes)).machine = m.poke address bytes := by
  show (m.putMemory (m.core.memory.write address bytes)).machine = _
  unfold putMemory poke
  cases m.core.memory.write address bytes with
  | ok memory => rfl
  | error f => rfl

/-- On a clock that stands still the machine is the one that the action makes of it at that
reading. -/
theorem machine_respond_still (m : Machine) (now : Float) (a : Action) :
    (m.respond (.still now) a).machine = m.perform now a := by
  cases a with
  | run limit => exact congrArg Ran.machine (m.runOn_still now limit)
  | press name => exact m.machine_useKeypad (m.keypad.press name)
  | release name => exact m.machine_useKeypad (m.keypad.release name)
  | pressKey key source =>
    rw [respond, machine_useKeypad, perform]
    cases m.keypad.pressKey key source <;> rfl
  | releaseKey key source =>
    rw [respond, machine_useKeypad, perform]
    cases m.keypad.releaseKey key source <;> rfl
  | poke address bytes => exact m.machine_poke _ address bytes
  | _ => rfl

/-- What a machine is after one action after the other, each on a clock of its own. -/
def after (m : Machine) (history : List (Clock × Action)) : Machine :=
  history.foldl (fun m turn => (m.respond turn.1 turn.2).machine) m

theorem after_nil (m : Machine) : m.after [] = m := rfl

theorem after_cons (m : Machine) (clock : Clock) (a : Action) (rest : List (Clock × Action)) :
    m.after ((clock, a) :: rest) = (m.respond clock a).machine.after rest := rfl

/-- What every step preserves is preserved by a run. -/
theorem runStepsOn_preserves {P : Machine → Prop}
    (hstep : ∀ m clock, P m → P (m.stepOn clock).machine) {m : Machine} (h : P m) (clock : Clock)
    (limit : Nat) : P (runStepsOn limit clock m).machine := by
  -- after each step both the machine and the clock are others
  induction limit generalizing m clock with
  | zero => exact h
  | succ limit ih =>
    unfold runStepsOn
    split
    · exact h
    · dsimp only
      cases (m.stepOn clock).result with
      | error e => exact hstep m clock h
      | ok r => exact ih (hstep m clock h) clock.later

/-! ## The keypad and the program -/

/-- A machine has the keypad and the program of another. -/
structure SameParts (m m' : Machine) : Prop where
  keypad : m'.keypad = m.keypad
  program : m'.program = m.program

variable {m : Machine} (clock : Clock)

/-- A step leaves the keypad and the program. -/
theorem sameParts_stepAt (delay sound : Float) :
    m.SameParts (m.stepAt delay sound).machine := by
  cases hstatus : m.status with
  | halted cause =>
    rw [stepAt_of_halted (isHalted_of_status hstatus)]
    exact ⟨rfl, rfl⟩
  | running =>
    obtain ⟨trace, status, steps, h⟩ :=
      exists_proceed_eq (t := m.tickAt delay sound) hstatus
    rw [stepAt_of_running hstatus, h]
    exact ⟨rfl, rfl⟩

theorem sameParts_runStepsOn (limit : Nat) :
    m.SameParts (runStepsOn limit clock m).machine := by
  refine runStepsOn_preserves (fun m' clock h => ?_) ⟨rfl, rfl⟩ clock limit
  have hstep : m'.SameParts (m'.stepOn clock).machine := sameParts_stepAt _ _
  exact ⟨hstep.keypad.trans h.keypad, hstep.program.trans h.program⟩

/-- So does a halt. -/
theorem sameParts_stop (cause : Cause) : m.SameParts (m.stop cause).value := by
  unfold stop
  split <;> exact ⟨rfl, rfl⟩

/-- A halt leaves the processor. -/
theorem core_stop (cause : Cause) : (m.stop cause).value.core = m.core := by
  unfold stop
  split <;> rfl

theorem sameParts_putMemory (attempt : Except Fault Ram) :
    m.SameParts (m.putMemory attempt).machine := by
  cases attempt <;> exact ⟨rfl, rfl⟩

/-- Installing a program leaves the keypad. -/
theorem keypad_install (timers : Timers Float) (program : List UInt8) :
    (m.install timers program).value.1.keypad = m.keypad := by
  unfold install
  split
  · exact (sameParts_stop _).keypad
  · rfl

/-- A reset starts the program of the machine. -/
theorem core_resetOn :
    (m.resetOn clock).value.core =
      .start m.program (m.core.timers.resetAt (clock 0) (clock 1)) m.core.random := rfl

/-- Loading a program that fits is resetting a machine that remembers it. -/
theorem loadOn_of_le {rom : List UInt8} (h : rom.length ≤ programCapacity) :
    (m.loadOn clock rom).value.1 = (resetOn { m with program := rom } clock).value := by
  rw [loadOn, install, if_neg (Nat.not_lt.2 h)]
  rfl

/-- Loading leaves the source of random bytes, whether the program fits or not. -/
theorem random_loadOn (rom : List UInt8) :
    (m.loadOn clock rom).value.1.core.random = m.core.random := by
  unfold loadOn install
  split
  · have hstopped := core_stop
      (m := (restart { m with program := [] } (m.core.timers.resetAt (clock 0) (clock 1))).value)
      (.fault (.programTooLarge rom.length))
    exact (congrArg Core.random hstopped :)
  · rfl

/-- Only the actions that use the keypad change it. -/
theorem keypad_respond {a : Action} (ha : a.usesKeypad = false) :
    (m.respond clock a).machine.keypad = m.keypad := by
  cases a with
  | load program => exact keypad_install _ program
  | reset => rfl
  | step => exact (sameParts_stepAt _ _).keypad
  | run limit => exact (sameParts_runStepsOn clock limit.toNat).keypad
  | halt reason => exact (sameParts_stop _).keypad
  | press | release | pressKey | releaseKey | releaseAll => cases ha
  | poke address bytes => exact (sameParts_putMemory _).keypad

/-- Only loading another program changes the program that a machine remembers. -/
theorem program_respond {a : Action} (ha : a.loads = false) :
    (m.respond clock a).machine.program = m.program := by
  cases a with
  | load program => cases ha
  | reset => rfl
  | step => exact (sameParts_stepAt _ _).program
  | run limit => exact (sameParts_runStepsOn clock limit.toNat).program
  | halt reason => exact (sameParts_stop _).program
  | press | release | pressKey | releaseKey =>
    rw [respond, machine_useKeypad]
    unfold withKeypad
    split <;> rfl
  | releaseAll => rfl
  | poke address bytes => exact (sameParts_putMemory _).program

/-- The program changes by loading only. -/
theorem program_after {history : List (Clock × Action)}
    (h : ∀ turn ∈ history, turn.2.loads = false) : (m.after history).program = m.program := by
  induction history generalizing m with
  | nil => rfl
  | cons turn rest ih =>
    have hrest := ih (m := (m.respond turn.1 turn.2).machine) fun t ht => h t (.tail _ ht)
    exact hrest.trans (program_respond turn.1 (h turn (.head _)))

/-! ## Machines of a setup -/

/-- The machines that come out of a setup, whatever was done with them, on whatever clocks. -/
inductive MadeFrom (setup : Setup) : Machine → Prop
  | switchedOn {clock : Clock} {printed : Bool} {o : Observed Machine}
      (h : switchOn setup clock printed = .ok o) : MadeFrom setup o.value
  | performed {m : Machine} (h : MadeFrom setup m) (clock : Clock) (a : Action) :
      MadeFrom setup (m.respond clock a).machine

/-- What a machine keeps of its setup: it is well-formed and its timers have a period. -/
structure Keeps (m : Machine) (period : Float) : Prop extends m.WellFormed where
  timers : m.core.timers.HasPeriod period

variable {period : Float}

/-- A restart keeps what a machine is to keep. -/
theorem Keeps.restart (h : m.Keeps period) {timers : Timers Float} (ht : timers.HasPeriod period) :
    (m.restart timers).value.Keeps period :=
  ⟨WellFormed.restart h.program_le timers, ht⟩

/-- So does installing a program. -/
theorem Keeps.install {timers : Timers Float} (ht : timers.HasPeriod period)
    (program : List UInt8) : (m.install timers program).value.1.Keeps period := by
  refine ⟨WellFormed.install timers program, ?_⟩
  unfold Machine.install
  split <;> exact ht

/-- So does a step. -/
theorem Keeps.stepAt (h : m.Keeps period) (delay sound : Float) :
    (m.stepAt delay sound).machine.Keeps period := by
  refine ⟨h.toWellFormed.stepAt delay sound, ?_⟩
  cases hstatus : m.status with
  | halted cause =>
    rw [stepAt_of_halted (isHalted_of_status hstatus)]
    exact h.timers
  | running =>
    obtain ⟨trace, status, steps, hproceed⟩ :=
      exists_proceed_eq (t := m.tickAt delay sound) hstatus
    rw [stepAt_of_running hstatus, hproceed]
    exact Timers.HasPeriod.step (h.timers.tickAt delay sound) m.keypad.snapshot

/-- So does a run of steps. -/
theorem Keeps.runStepsOn (h : m.Keeps period) (limit : Nat) :
    (runStepsOn limit clock m).machine.Keeps period := by
  refine runStepsOn_preserves (P := (Keeps · period)) (fun m clock hm => ?_) h clock limit
  exact hm.stepAt _ _

theorem Keeps.useKeypad (h : m.Keeps period)
    (attempt : Except Invalid (Observed (Keypad × Bool))) :
    (m.useKeypad attempt).machine.Keeps period := by
  refine ⟨?_, ?_⟩
  · rw [machine_useKeypad]
    exact h.toWellFormed.withKeypad _
  · cases attempt with
    | ok used => exact h.timers
    | error e => exact h.timers

theorem Keeps.poke (h : m.Keeps period) (address : Int) (bytes : List UInt8) :
    (m.poke address bytes).Keeps period := by
  refine ⟨h.toWellFormed.poke address bytes, ?_⟩
  unfold Machine.poke
  split <;> exact h.timers

/-- So does every action. -/
theorem Keeps.respond (h : m.Keeps period) (a : Action) :
    (m.respond clock a).machine.Keeps period := by
  cases a with
  | load program => exact Keeps.install (h.timers.resetAt _ _) program
  | reset => exact h.restart (h.timers.resetAt _ _)
  | step => exact h.stepAt _ _
  | run limit => exact h.runStepsOn clock limit.toNat
  | halt reason =>
    refine ⟨h.toWellFormed.stop _, ?_⟩
    show (m.stop (.host reason)).value.core.timers.HasPeriod period
    rw [core_stop]
    exact h.timers
  | press | release | pressKey | releaseKey => exact h.useKeypad _
  | releaseAll => exact ⟨⟨h.core, h.pc_le, h.not_exited, h.program_le⟩, h.timers⟩
  | poke address bytes =>
    rw [machine_poke]
    exact h.poke address bytes

/-- A machine is switched on as long as its timers and its trace are accepted. -/
theorem switchOn_eq_ok_iff {setup : Setup} {printed : Bool} {o : Observed Machine} :
    switchOn setup clock printed = .ok o ↔
      ¬ setup.rate ≤ 0 ∧ ∃ trace, initialTrace setup.room setup.traceCapacity printed = .ok trace ∧
        o = (ofSetup setup (clock 0) trace).resetOn clock.later := by
  constructor
  · intro h
    unfold switchOn at h
    cases hc : create setup (clock 0) printed with
    | error e =>
      rw [hc] at h
      cases h
    | ok created =>
      rw [hc] at h
      cases h
      obtain ⟨hrate, trace, htrace, rfl⟩ := create_eq_ok_iff.1 hc
      exact ⟨hrate, trace, htrace, rfl⟩
  · rintro ⟨hrate, trace, htrace, rfl⟩
    rw [switchOn, create_eq_ok_iff.2 ⟨hrate, trace, htrace, rfl⟩]
    rfl

/-- **Whatever was done with a machine, it keeps its invariant and the period of its setup.** -/
theorem MadeFrom.keeps {setup : Setup} (h : MadeFrom setup m) : m.Keeps (1.0 / setup.rate) := by
  induction h with
  | performed _ clock a ih => exact ih.respond clock a
  | switchedOn h =>
    obtain ⟨-, trace, -, rfl⟩ := (switchOn_eq_ok_iff _).1 h
    exact ⟨WellFormed.restart (Nat.zero_le _) _, rfl, rfl⟩

/-- A machine that a host brings about comes out of some setup. -/
theorem madeFrom_of_reached (h : m.Reached) : ∃ setup, MadeFrom setup m := by
  induction h with
  | @created setup now printed o h => exact ⟨setup, .switchedOn ((switchOn_still _ _ _).trans h)⟩
  | @performed m _ now a _ ih =>
    obtain ⟨setup, hm⟩ := ih
    exact ⟨setup, m.machine_respond_still now a ▸ hm.performed (.still now) a⟩

/-- What is made from a setup is still made from it after a history. -/
theorem MadeFrom.after {setup : Setup} (h : MadeFrom setup m) (history : List (Clock × Action)) :
    MadeFrom setup (m.after history) := by
  induction history generalizing m with
  | nil => exact h
  | cons turn rest ih => exact ih (h.performed turn.1 turn.2)

end Machine

end SuperChip
