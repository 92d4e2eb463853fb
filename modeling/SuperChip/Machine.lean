import SuperChip.Core.Execute
import SuperChip.Event
import SuperChip.Trace

/-!
# The machine

A machine is a processor core with a keypad, an optional trace and a memory of why it halted.
A host loads a program into it and steps it; time passes only as the host says, by the clock
reading that it hands to each operation.

- `Machine`: the state of a machine; `Status` and `Cause` say whether it runs and why not.
- `Machine.create`: a machine as it is switched on.
- `Machine.reset`, `Machine.load`, `Machine.step`, `Machine.run`, `Machine.halt`: what a host
  does with it. `restart`, `install` and `stepAt` are what they do once the timers have looked at
  the clock, or look at it one after the other.
- `Action`: everything that a host does with a machine.
- `StepResult`, `LoadResult`: what the host is told.

Models `Machine.reset`, `load`, `step`, `run`, `halt`, `_fail`, `_record` and `create_machine`, with
one value for the state, the reason and the last error.
-/

namespace SuperChip

/-- Why a machine halted. -/
inductive Cause where
  /-- The program ended itself. -/
  | exit
  /-- The program met a fault, or was too large to be loaded. -/
  | fault (fault : Fault)
  /-- The host asked for it, and may have said why. -/
  | host (reason : Option String)
deriving DecidableEq, Repr

namespace Cause

/-- The reason as it is shown. -/
def reason? : Cause → Option String
  | exit => some "exit"
  | fault f => some f.describe
  | host reason => reason

/-- The fault, if it was one. -/
def fault? : Cause → Option Fault
  | fault f => some f
  | exit | host _ => none

end Cause

/-- Whether a machine runs. -/
inductive Status where
  | running
  | halted (cause : Cause)
deriving DecidableEq, Repr

namespace Status

def isHalted : Status → Bool
  | running => false
  | halted _ => true

/-- Why the machine halted, if it did. -/
def cause? : Status → Option Cause
  | running => none
  | halted cause => some cause

/-- The reason that is shown for a halt. -/
def reason? (s : Status) : Option String := s.cause?.bind Cause.reason?

/-- The fault that halted the machine. -/
def fault? (s : Status) : Option Fault := s.cause?.bind Cause.fault?

/-- The word for a status. -/
def text : Status → String
  | running => "running"
  | halted _ => "halted"

end Status

/-- A machine. -/
structure Machine where
  core : Core
  keypad : Keypad
  trace : Option Trace
  status : Status
  /-- The program that a reset puts back into memory. -/
  program : List UInt8
  /-- The instructions completed since the last reset. -/
  steps : Nat

/-- What a host is told about a step. -/
structure StepResult where
  status : Status
  /-- The instruction that was completed, if one was. -/
  instruction : Option Decoded
  waiting : Bool
  error : Option Fault
deriving DecidableEq, Repr

namespace StepResult

/-- Whether the step met no fault. -/
def ok (r : StepResult) : Bool := r.error.isNone

/-- Whether the machine is halted after the step. -/
def halted (r : StepResult) : Bool := r.status.isHalted

end StepResult

/-- Something that a host does with a machine. -/
inductive Action where
  | load (program : List UInt8)
  | reset
  | step
  | run (limit : Int)
  | halt (reason : Option String)
  | press (name : String)
  | release (name : String)
  | pressKey (key : Int) (source : String)
  | releaseKey (key : Int) (source : String)
  | releaseAll
  /-- Replaces cells of the memory. -/
  | poke (address : Int) (bytes : List UInt8)

/-- What a host is told about loading a program. -/
structure LoadResult where
  /-- The number of bytes loaded. -/
  size : Nat
  error : Option Fault
deriving DecidableEq, Repr

/-- Whether the program was loaded. -/
def LoadResult.ok (r : LoadResult) : Bool := r.error.isNone

namespace Machine

/-! ## Views -/

/-- Whether the machine is halted. -/
def isHalted (m : Machine) : Bool := m.status.isHalted

/-- Whether the tone sounds. -/
def soundActive (m : Machine) : Bool := m.core.timers.soundActive

/-! ## Halting -/

/-- Stops a running machine. A machine that is halted keeps its first cause. -/
def stop (m : Machine) (cause : Cause) : Observed Machine :=
  if m.isHalted then .quiet m
  else
    ⟨{ m with status := .halted cause }, [.halted cause.reason? m.core.registers.pc]⟩

/-- The host stops the machine. -/
def halt (m : Machine) (reason : Option String) : Observed Machine := m.stop (.host reason)

/-- The reason that a host gives unless it says otherwise. -/
def defaultReason : String := "host request"

/-- A fault stops the machine. -/
def fail (m : Machine) (f : Fault) : Observed Machine :=
  let stopped := m.stop (.fault f)
  ⟨stopped.value, .failed f :: stopped.events⟩

/-! ## Resetting and loading -/

/-- The machine at the start of its program, with timers that were started again. The keypad, the
trace and the source of random bytes stay as they are. -/
def restart (m : Machine) (timers : Timers Float) : Observed Machine :=
  ⟨{ m with
      core := .start m.program timers m.core.random
      status := .running
      steps := 0 },
    [.reset m.program.length]⟩

/-- Puts the machine back to the start of its program and lets it run. -/
def reset (m : Machine) (now : Float) : Observed Machine := m.restart (m.core.timers.reset now)

/-- Restarts the machine with a program. One that is too large leaves the machine halted and
without a program. -/
def install (m : Machine) (timers : Timers Float) (program : List UInt8) :
    Observed (Machine × LoadResult) :=
  if program.length > programCapacity then
    let cleared := { m with program := [] }.restart timers
    let failed := cleared.value.fail (.programTooLarge program.length)
    ⟨(failed.value, ⟨0, some (.programTooLarge program.length)⟩),
      cleared.events ++ failed.events⟩
  else
    ({ m with program := program }.restart timers).map (·, ⟨program.length, none⟩)

/-- Resets the machine with a program. -/
def load (m : Machine) (now : Float) (program : List UInt8) : Observed (Machine × LoadResult) :=
  m.install (m.core.timers.reset now) program

/-! ## Switching on -/

/-- What a machine is made from. -/
structure Setup where
  /-- The frequency of the timers in Hertz. -/
  rate : Float
  /-- The keys of the host, with the keys of the keypad that they are bound to. -/
  bindings : List (String × Int)
  random : RandomSource
  /-- The number of steps to keep in a trace, if it is above zero. -/
  traceCapacity : Int
  /-- The room for the trace. -/
  room : Room

/-- The capacity of a trace that is kept only to be printed. -/
def printedTraceCapacity : Int := 512

/-- The trace of a machine: of the requested capacity, or of a standard one if none is requested
but recorded steps are printed. -/
def initialTrace (room : Room) (capacity : Int) (printed : Bool) : Except Invalid (Option Trace) :=
  let kept := if capacity ≤ 0 && printed then printedTraceCapacity else capacity
  if kept ≤ 0 then .ok none else (Trace.ofCapacity? room kept).map some

/-- A machine as it is switched on: reset, and without a program. `printed` says whether
recorded steps are printed. -/
def create (setup : Setup) (now : Float) (printed : Bool) : Except Invalid (Observed Machine) := do
  let timers ← Timers.ofRate? setup.rate now
  let trace ← initialTrace setup.room setup.traceCapacity printed
  let m : Machine :=
    { core := .start [] timers setup.random
      keypad := .ofBindings setup.bindings
      trace := trace
      status := .running
      program := []
      steps := 0 }
  .ok (m.reset now)

/-! ## Stepping -/

/-- Records a step that began with the registers `before` and completed an instruction or met a
fault. Without a trace nothing is recorded. -/
def record (m : Machine) (before : Registers) (instruction : Option Decoded)
    (error : Option Fault) : Observed Machine :=
  match m.trace with
  | none => .quiet m
  | some t =>
    let entry := Trace.Entry.ofStep before (instruction.map Decoded.word)
      ((instruction.map Decoded.text).getD "") m.core.timers.delay.value
      m.core.timers.sound.value m.core.waiting m.isHalted ((error.map Fault.name).getD "")
    ⟨{ m with trace := some (t.record entry) }, [.traced entry]⟩

/-- A machine whose timers have looked at the clock, each at a reading of its own. -/
def tickAt (m : Machine) (delay sound : Float) : Observed Machine :=
  let timers := m.core.timers
  let counted (name : String) (t : Timer Float) (now : Float) : List Event :=
    (t.counted? now).toList.map (.counted name)
  ⟨{ m with core.timers := timers.tickAt delay sound },
    counted "delay" timers.delay delay ++ counted "sound" timers.sound sound⟩

/-- A machine whose timers have looked at a clock reading. -/
def tick (m : Machine) (now : Float) : Observed Machine := m.tickAt now now

/-- The event of the instruction that is about to be executed. -/
def announce (c : Core) : List Event :=
  match c.peek with
  | .ok d => [.fetched c.registers.pc d]
  | .error _ => []

/-- Settles what a completed instruction means for the machine: the program may have ended
itself, or may have left the memory. -/
def settle (m : Machine) : Observed Machine × Option Fault :=
  if m.core.exited then (m.stop .exit, none)
  else if Ram.lastAddress < m.core.registers.pc then
    let f := .outOfBounds m.core.registers.pc 2
    (m.fail f, some f)
  else (.quiet m, none)

/-- What a step leaves behind: the machine, and what the host is told, or why the host is told
nothing, which is only when it had moved the stack pointer out of its range. -/
structure Stepped where
  machine : Machine
  result : Except Stop StepResult
  events : List Event

/-- Executes one instruction of a machine whose timers have looked at the clock. -/
def proceed (ticked : Observed Machine) : Stepped :=
  let m := ticked.value
  let before := m.core.registers
  let announced := ticked.events ++ announce m.core
  match m.core.step m.keypad.snapshot with
  | (.error (.fault f), core) =>
    let failed := { m with core := core }.fail f
    let recorded := failed.value.record before none (some f)
    ⟨recorded.value, .ok ⟨recorded.value.status, none, false, some f⟩,
      announced ++ failed.events ++ recorded.events⟩
  | (.error other, core) => ⟨{ m with core := core }, .error other, announced⟩
  | (.ok d, core) =>
    let counted := { m with core := core, steps := m.steps + 1 }
    let (settled, error) := counted.settle
    let recorded := settled.value.record before (some d) error
    let waiting := core.waiting && error.isNone
    ⟨recorded.value, .ok ⟨recorded.value.status, some d, waiting, error⟩,
      announced ++ settled.events ++ recorded.events⟩

/-- Lets the timers look at the clock, each at a reading of its own, and executes one instruction.
A halted machine stays as it is. -/
def stepAt (m : Machine) (delay sound : Float) : Stepped :=
  if m.isHalted then ⟨m, .ok ⟨m.status, none, false, m.status.fault?⟩, []⟩
  else proceed (m.tickAt delay sound)

/-- Lets the timers look at a clock reading and executes one instruction. -/
def step (m : Machine) (now : Float) : Stepped := m.stepAt now now

/-- What a run leaves behind: the machine, and the number of steps taken, or why the last one
gave no result. -/
structure Ran where
  machine : Machine
  taken : Except Stop Nat
  events : List Event

/-- Steps the machine until it halts, but at most `limit` times. -/
def runSteps (now : Float) : Nat → Machine → Ran
  | 0, m => ⟨m, .ok 0, []⟩
  | limit + 1, m =>
    if m.isHalted then ⟨m, .ok 0, []⟩
    else
      let s := m.step now
      match s.result with
      | .error e => ⟨s.machine, .error e, s.events⟩
      | .ok _ =>
        let rest := runSteps now limit s.machine
        ⟨rest.machine, rest.taken.map (· + 1), s.events ++ rest.events⟩

/-- Steps the machine until it halts, but at most `limit` times. A limit below zero is zero. -/
def run (m : Machine) (now : Float) (limit : Int) : Ran := m.runSteps now limit.toNat

end Machine

end SuperChip
