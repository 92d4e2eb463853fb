import SuperChip.Attempt
import SuperChip.Debug
import SuperChip.Machine.Clock
import SuperChip.Machine.Snapshot

/-!
# Rigs

A rig is a machine with its parts each for themselves: whether it runs, why it halted and which
fault it met are fields of their own, which its operations set one after the other. It stands on a
bench with a clock that its timers look at themselves and with the switches of the debug messages,
which are printed where they come up. An operation can fail on its way, and then what it did until
then stays done.

- `Rig`: the state of a machine, field by field; `Machine.rig` is the one of a machine.
- `Bench`: a rig and what is around it; `Bench.Op`: operations on it.
- `Bench.look`, `Bench.debugLog`, `Bench.note`: what an operation has to do with its surroundings.
- `Bench.reset`, `load`, `step`, `run`, `halt` and the uses of the keypad: what a host does with a
  rig; `Bench.perform` is any of them.
- `Bench.Request`, `Bench.follow`: what a host asks for, one thing after the other, on a clock that
  it may set in between.
- `Bench.create`: a new rig.

Models `Machine.reset`, `load`, `step`, `run`, `halt`, `_fail`, `_record` and `create_machine`,
`CountdownTimer.tick`, the presses of `Keypad`, `debug_enabled` and `debug_log`, field by field.
-/

namespace SuperChip

/-- Whether a rig runs. -/
inductive Rig.State where
  | running
  | halted
deriving DecidableEq, Repr

/-- The word for a state. -/
def Rig.State.text : Rig.State → String
  | running => "running"
  | halted => "halted"

/-- A machine with its parts each for themselves. -/
structure Rig where
  core : Core
  keypad : Keypad
  trace : Option Trace
  state : Rig.State
  /-- Why the rig halted. -/
  haltReason : Option String
  /-- The fault that was met last. -/
  lastError : Option Fault
  /-- The program that a reset puts back into memory. -/
  program : List UInt8
  /-- The instructions completed since the last reset. -/
  steps : Nat

/-- Whether a machine runs. -/
def Status.state : Status → Rig.State
  | .running => .running
  | .halted _ => .halted

/-- The rig of a machine: what the status of the machine is made of, each part for itself. -/
def Machine.rig (m : Machine) : Rig where
  core := m.core
  keypad := m.keypad
  trace := m.trace
  state := m.status.state
  haltReason := m.status.reason?
  lastError := m.status.fault?
  program := m.program
  steps := m.steps

/-- What a debugger shows of a rig. Of a halt it shows the reason only. -/
def Rig.dump (rig : Rig) : Snapshot where
  status := if rig.state = .running then .running else .halted (.host rig.haltReason)
  pc := rig.core.registers.pc
  i := rig.core.registers.i
  sp := rig.core.registers.sp
  v := rig.core.registers.v
  stack := rig.core.registers.activeFrames
  delay := rig.core.timers.delay.value
  sound := rig.core.timers.sound.value
  waiting := rig.core.waiting

/-- What is told about a step of a rig. -/
structure Rig.Report where
  state : Rig.State
  /-- The instruction that was completed, if one was. -/
  instruction : Option Decoded
  waiting : Bool
  error : Option Fault
deriving DecidableEq, Repr

/-- What is told about an action on a rig. -/
inductive Rig.Told where
  | done
  | loaded (result : LoadResult)
  | stepped (report : Rig.Report)
  | ran (taken : Nat)
  /-- Whether the key of the host is bound. One of the keypad itself always is. -/
  | keyed (bound : Bool)
deriving DecidableEq, Repr

/-- Why an operation did not come to its end. -/
inductive Raised where
  | stop (stop : Stop)
  | invalid (refusal : Invalid)
deriving DecidableEq, Repr

/-- What is around a rig. -/
structure Around where
  room : Room
  /-- The readings that the clock gives since its host set it. -/
  readings : Clock
  /-- How many of them have been taken. -/
  looked : Nat
  debug : Debug.Session
  /-- The lines that were printed so far. -/
  printed : List String

/-- The readings that the clock is going to give. -/
def Around.clock (around : Around) : Clock := around.readings.skip around.looked

/-- A rig and what is around it. -/
structure Bench where
  rig : Rig
  around : Around

/-- Both timers, by name. -/
inductive Timers.Name where
  | delay
  | sound
deriving DecidableEq, Repr

namespace Timers

variable {τ : Type}

/-- A name as it is printed. -/
def Name.text : Name → String
  | .delay => "delay"
  | .sound => "sound"

/-- The timer of a name. -/
def get (t : Timers τ) : Name → Timer τ
  | .delay => t.delay
  | .sound => t.sound

/-- Replaces the timer of a name. -/
def put (t : Timers τ) (timer : Timer τ) : Name → Timers τ
  | .delay => { t with delay := timer }
  | .sound => { t with sound := timer }

end Timers

namespace Bench

/-- An operation on a rig and on what is around it. -/
abbrev Op (α : Type) := Attempt Raised Bench α

/-! ## The rig and what is around it -/

/-- The rig as it is now. -/
def theRig : Op Rig := do return (← get).rig

/-- Changes the rig. -/
def change (g : Rig → Rig) : Op Unit := modify fun b => { b with rig := g b.rig }

/-- A fault is raised, if there is one. -/
def unlessFault {α : Type} (r : Except Fault α) : Op α :=
  Attempt.ofExcept (r.mapError fun f => .stop (.fault f))

/-- An argument that is refused raises why. -/
def unlessInvalid {α : Type} (r : Except Invalid α) : Op α :=
  Attempt.ofExcept (r.mapError .invalid)

/-- Looks at the clock, which moves on. -/
def look : Op Float := do
  let around := (← get).around
  modify fun b => { b with around.looked := around.looked + 1 }
  return around.clock 0

/-- Whether a category is switched on. Whoever asks first reads the variable. -/
def debugEnabled (category : String) : Op Bool := do
  modify fun b => { b with around.debug := b.around.debug.settled }
  return Debug.enabled (← get).around.debug.categories (some category)

/-- Prints a message if its category is switched on. The values are put into their places only
then, and there may be no room for them. -/
def debugLog (category template : String) (values : List Value) : Op Unit := do
  modify fun b => { b with around.debug := b.around.debug.settled }
  let around := (← get).around
  let line ← unlessInvalid <|
    (around.debug.log around.room category template values).mapError .oversize
  modify fun b => { b with around.printed := b.around.printed ++ line.toList }

/-- Reports an event, if its category is switched on. -/
def note (e : Event) : Op Unit := do
  if ← debugEnabled e.category then debugLog e.category e.template e.values

/-! ## Timers -/

/-- A timer looks at the clock and counts if a period has passed. -/
def tickTimer (name : Timers.Name) : Op Unit := do
  let now ← look
  let timers := (← theRig).core.timers
  let timer := timers.get name
  change fun rig => { rig with core.timers := timers.put (timer.tick now) name }
  match timer.counted? now with
  | some value => note (.counted name.text value)
  | none => return

/-- A timer starts again from zero at the time that the clock shows. -/
def resetTimer (name : Timers.Name) : Op Unit := do
  let now ← look
  let timers := (← theRig).core.timers
  change fun rig => { rig with core.timers := timers.put ((timers.get name).reset now) name }

/-- A new timer of a frequency in Hertz, which starts at the time that the clock shows. -/
def newTimer (hz : Float) : Op (Timer Float) := do
  let period ← unlessInvalid (Timer.periodOfRate? hz)
  let now ← look
  return .start period now 0

/-! ## Halting -/

/-- The rig is halted for a reason. One that is halted stays as it is. -/
def halt (reason : Option String) : Op Unit := do
  let rig ← theRig
  if rig.state = .halted then return
  change fun rig => { rig with state := .halted, haltReason := reason }
  note (.halted reason rig.core.registers.pc)

/-- A fault is kept as the last one and halts the rig. -/
def fail (f : Fault) : Op Unit := do
  change fun rig => { rig with lastError := some f }
  note (.failed f)
  halt (some f.describe)

/-! ## Resetting and loading -/

/-- The cells of the memory are zeroed and the glyph tables are put in place. -/
def clearMemory : Op Unit := do
  let (memory, placed) := Memory.powerOn 0x1000
  change fun rig => { rig with core.memory := memory }
  unlessFault placed

/-- The program of the rig is copied into the memory, if there is one. -/
def placeProgram : Op Unit := do
  let rig ← theRig
  if rig.program.isEmpty then return
  let memory ← unlessFault (rig.core.memory.loadProgram rig.program)
  change fun rig => { rig with core.memory := memory }

/-- The screen is made anew in the low resolution. -/
def clearScreen : Op Unit := do
  let room := (← get).around.room
  let screen ← unlessInvalid (Screen.ofSize? room 64 32)
  change fun rig => { rig with core.screen := screen }

/-- The memory, the processor and the screen are set up anew with the program of the rig. -/
def rebuild : Op Unit := do
  clearMemory
  placeProgram
  change fun rig => { rig with core := rig.core.resetRegisters }
  clearScreen

/-- The rig is put back to the start of its program and runs. -/
def reset : Op Unit := do
  rebuild
  resetTimer .delay
  resetTimer .sound
  change fun rig =>
    { rig with state := .running, haltReason := none, lastError := none, steps := 0 }
  note (.reset (← theRig).program.length)

/-- The rig is reset with a program. One that is too large leaves it halted and without a
program. -/
def load (program : List UInt8) : Op LoadResult := do
  if program.length > programCapacity then
    change fun rig => { rig with program := [] }
    reset
    fail (.programTooLarge program.length)
    return ⟨0, some (.programTooLarge program.length)⟩
  else
    change fun rig => { rig with program := program }
    reset
    return ⟨program.length, none⟩

/-! ## Stepping -/

/-- The instruction at the program counter is read and executed. -/
def stepCore (keys : Keys) : Op Decoded := do
  let core := (← theRig).core
  let d ← unlessFault core.peek
  note (.fetched core.registers.pc d)
  let (outcome, after) := (← theRig).core.execute keys d.instruction
  change fun rig => { rig with core := after }
  Attempt.ofExcept (outcome.mapError .stop)
  return d

/-- A step that began with some registers is recorded and printed, if there is a trace. -/
def record (before : Option Registers) (instruction : Option Decoded) (error : Option Fault) :
    Op Unit := do
  let rig ← theRig
  match rig.trace, before with
  | some trace, some before =>
    let trace := trace.record <|
      .ofStep before (instruction.map Decoded.word) ((instruction.map Decoded.text).getD "")
        rig.core.timers.delay.value rig.core.timers.sound.value rig.core.waiting
        (rig.state = .halted) ((error.map Fault.name).getD "")
    change fun rig => { rig with trace := some trace }
    if ← debugEnabled "trace" then
      (trace.render (some 1)).forM fun line => debugLog "trace" line []
  | _, _ => return

/-- A completed instruction may have ended the program, or have left the memory. -/
def settle : Op (Option Fault) := do
  let core := (← theRig).core
  if core.exited then
    halt (some "exit")
    return none
  else if Ram.lastAddress < core.registers.pc then
    let f := .outOfBounds core.registers.pc 2
    fail f
    return some f
  else return none

/-- The instruction met a fault, which halts the rig. -/
def faulted (before : Option Registers) (f : Fault) : Op Rig.Report := do
  fail f
  record before none (some f)
  return ⟨(← theRig).state, none, false, some f⟩

/-- The instruction was completed, which counts. -/
def completed (before : Option Registers) (d : Decoded) : Op Rig.Report := do
  change fun rig => { rig with steps := rig.steps + 1 }
  let error ← settle
  record before (some d) error
  let rig ← theRig
  return ⟨rig.state, some d, rig.core.waiting && error.isNone, error⟩

/-- One instruction is executed, and the step is recorded with the registers from before it. What
keeps the instruction from completing, unless it is a fault, is raised. -/
def proceed (before : Option Registers) (keys : Keys) : Op Rig.Report := do
  match ← Attempt.caught (stepCore keys) with
  | .error (.stop (.fault f)) => faulted before f
  | .error other => throw other
  | .ok d => completed before d

/-- The timers look at the clock and one instruction is executed. A halted rig stays as it is. -/
def step : Op Rig.Report := do
  let rig ← theRig
  if rig.state = .halted then return ⟨rig.state, none, false, rig.lastError⟩
  tickTimer .delay
  tickTimer .sound
  proceed (rig.trace.map fun _ => rig.core.registers) rig.keypad.snapshot

/-- The rig is stepped until it halts, but at most so many times. -/
def runSteps : Nat → Op Nat
  | 0 => return 0
  | limit + 1 => do
    if (← theRig).state = .halted then return 0
    let _ ← step
    let taken ← runSteps limit
    return taken + 1

/-! ## The keypad -/

/-- A key is put down or up. There is a message only if it was not there already. -/
def turn (key : Fin 16) (down : Bool) : Op Unit := do
  let keypad := (← theRig).keypad
  if keypad.isDown key = down then return
  change fun rig =>
    { rig with keypad.pressed := keypad.pressed.setIfInBounds key.val down }
  note (.keyChanged key down)

/-- A source holds down the key of a number. -/
def pressKey (key : Int) (source : String) : Op Unit := do
  let key ← unlessInvalid (Keypad.key? key)
  let keypad := (← theRig).keypad
  change fun rig =>
    { rig with keypad := keypad.setHolders key ((keypad.holders.get key).insert source) }
  turn key true

/-- A source lets go of the key of a number, which stays down as long as others hold it. -/
def releaseKey (key : Int) (source : String) : Op Unit := do
  let key ← unlessInvalid (Keypad.key? key)
  let keypad := (← theRig).keypad
  let others := (keypad.holders.get key).erase source
  change fun rig => { rig with keypad := keypad.setHolders key others }
  if others.isEmpty then turn key false

/-- A key of the host is pressed. The answer says whether it is bound. -/
def press (name : String) : Op Bool := do
  match (← theRig).keypad.lookup name with
  | none =>
    note (.unboundKey name true)
    return false
  | some key =>
    pressKey key (Text.lower name)
    return true

/-- A key of the host is released. The answer says whether it is bound. -/
def release (name : String) : Op Bool := do
  match (← theRig).keypad.lookup name with
  | none =>
    note (.unboundKey name false)
    return false
  | some key =>
    releaseKey key (Text.lower name)
    return true

/-! ## Everything that a host does -/

/-- What an action does, and what is told about it. -/
def perform : Action → Op Rig.Told
  | .load program => return .loaded (← load program)
  | .reset => do
    reset
    return .done
  | .step => return .stepped (← step)
  | .run limit => return .ran (← runSteps limit.toNat)
  | .halt reason => do
    halt reason
    return .done
  | .press name => return .keyed (← press name)
  | .release name => return .keyed (← release name)
  | .pressKey key source => do
    pressKey key source
    return .keyed true
  | .releaseKey key source => do
    releaseKey key source
    return .keyed true
  | .releaseAll => do
    change fun rig => { rig with keypad := rig.keypad.reset }
    return .done
  | .poke address bytes => do
    let memory ← unlessFault ((← theRig).core.memory.write address bytes)
    change fun rig => { rig with core.memory := memory }
    return .done

/-- What a host asks for: an action, before which it may set the clock. -/
structure Request where
  clock : Option Clock
  action : Action

/-- The clock as the host sets it, if it does. -/
def wind (b : Bench) : Option Clock → Bench
  | none => b
  | some clock => { b with around.readings := clock, around.looked := 0 }

/-- A host that sets the clock finds it as it was set. -/
theorem clock_wind (b : Bench) (clock : Option Clock) :
    (b.wind clock).around.clock = clock.getD b.around.clock := by
  cases clock <;> rfl

/-- Setting the clock leaves the rig. -/
theorem wind_eq (b : Bench) (clock : Option Clock) :
    b.wind clock = ⟨b.rig, (b.wind clock).around⟩ := by
  cases clock <;> rfl

/-- What comes of a request. -/
def answer (b : Bench) (r : Request) : Except Raised Rig.Told × Bench :=
  (perform r.action).on (b.wind r.clock)

/-- What is told about one request after the other, and the bench after them. An action that fails
does not keep its host from the next one. -/
def follow (b : Bench) : List Request → List (Except Raised Rig.Told) × Bench
  | [] => ([], b)
  | r :: rest =>
    let (told, next) := b.answer r
    let (answers, last) := next.follow rest
    (told :: answers, last)

/-! ## Switching on -/

/-- The trace of a new rig. Only if none is requested does it matter whether recorded steps are
printed. -/
def newTrace (capacity : Int) : Op (Option Trace) := do
  let printed ← if capacity ≤ 0 then debugEnabled "trace" else pure false
  unlessInvalid (Machine.initialTrace (← get).around.room capacity printed)

/-- A new rig takes the place of the one that is there: its timers, its trace and then a reset. -/
def create (setup : Machine.Setup) : Op Unit := do
  let delay ← newTimer setup.rate
  let sound ← newTimer setup.rate
  let trace ← newTrace setup.traceCapacity
  change fun _ =>
    { core := .start [] ⟨delay, sound⟩ setup.random
      keypad := .ofBindings setup.bindings
      trace := trace
      state := .running
      haltReason := none
      lastError := none
      program := []
      steps := 0 }
  reset

end Bench

end SuperChip
