import SuperChip.Machine.Clock
import SuperChip.Session.Shell

/-!
# Sessions on clocks that move

The steps of a frame look at the clock one after the other, and time passes while the debug shell
waits for a line. The ordinary operations of a session take the clock to stand still meanwhile; here
it moves.

- `Session.stepTimesOn`, `stepFrameOn`: the instructions of a frame.
- `Session.executeOn`, `commandOn`, `shellOn`: a command, a line and the whole debug shell.
- `Session.createMachineOn`, `reloadOn`: making a machine and loading its program file again.
- `stepFrameOn_still`, `commandOn_still`, `shellOn_still`, `createMachineOn_still`,
  `reloadOn_still`: on a clock that stands still they are the ordinary ones.
-/

namespace SuperChip.Session

variable (s : Session) (clock : Clock)

/-! ## Frames -/

/-- Steps the machine, but at most so many times, until it is halted. -/
def stepTimesOn : Nat → Clock → Session → Session
  | 0, _, s => s
  | limit + 1, clock, s =>
    match s.machine with
    | none => s
    | some m =>
      let stepped := m.stepOn clock
      let s := { s with machine := some stepped.machine }.observe stepped.events
      match stepped.result with
      | .error _ => s
      | .ok r =>
        if r.halted then s.noteHalt stepped.machine r.error else stepTimesOn limit clock.later s

/-- Executes the instructions of one frame. -/
def stepFrameOn : Session := stepTimesOn s.settings.cyclesPerFrame.toNat clock s

/-! ## The debug shell -/

/-- The effect of a command. Only a step looks at the clock. -/
def executeOn (m : Machine) : Command → Bool × Session
  | .step =>
    let stepped := m.stepOn clock
    let s := { s with machine := some stepped.machine }.observe stepped.events
    match stepped.result with
    | .error _ => (true, s)
    | .ok r => (true, s.print (Shell.stepLine r))
  | c => s.execute m c

/-- The effect of a line. Without a machine nothing looks at the clock. -/
def commandOn (line : String) : Except SessionError Bool × Session :=
  match s.machine with
  | some m =>
    let (goOn, s) := s.executeOn clock m (Command.parse line)
    (.ok goOn, s)
  | none => s.command line

/-- Reads lines from the console until one closes the shell, the console ends or it is
interrupted. -/
def readCommandsOn : List (Option String) → Clock → Session → Session
  | console, clock, s =>
    if !s.running then { s with host.console := console }
    else match console with
      | [] => { s with host.console := [] }.print "Resuming emulator."
      | none :: rest => { s with host.console := rest }.print "Resuming emulator."
      | some line :: rest =>
        match s.commandOn clock (Text.lower (Text.strip line)) with
        | (.ok true, s) => readCommandsOn rest clock.later s
        | (_, s) => { s with host.console := rest }

/-- Opens the shell. -/
def shellOn : Session := readCommandsOn s.host.console clock (s.printAll Shell.greeting)

/-! ## The machine and its program -/

/-- Loads the program in a file into a machine. -/
def loadRomOn (m : Machine) (path : Path) : Except SessionError Unit × Machine × Session :=
  match readRom s.host.files path with
  | .error e => (.error e, m, s)
  | .ok rom =>
    let loaded := m.loadOn clock rom.data
    let (m, result) := loaded.value
    let s := s.observe loaded.events
    match result.error with
    | some f => (.error (.romRefused path f), m, s)
    | none => (.ok (), m, s.observe [.loaded rom.name rom.size])

/-- A machine with the program in a file. Before the program is loaded each timer has looked at the
clock twice. -/
def createMachineOn (path : Option Path) : Except SessionError Machine × Session :=
  match Machine.switchOn s.machineSetup clock s.printsTrace with
  | .error e => (.error (.invalid e), s)
  | .ok created =>
    let s := s.observe created.events
    match path with
    | none => (.error (.nothingTo "open"), s)
    | some path =>
      match s.loadRomOn (clock.skip 4) created.value path with
      | (.error e, _, s) => (.error e, s)
      | (.ok (), m, s) => (.ok m, s)

/-- Loads the program file again, lets go of all keys and goes on if paused. -/
def reloadOn : Except SessionError Unit × Session :=
  match s.settings.romPath, s.machine with
  | some path, some m =>
    match s.loadRomOn clock m path with
    | (.error e, m, s) => (.error e, { s with machine := some m })
    | (.ok (), m, s) =>
      (.ok (), { s with machine := some { m with keypad := m.keypad.reset }, paused := false })
  | _, _ => s.reload

/-! ## Clocks that stand still -/

theorem now_printAll (h : Host) (lines : List String) : (h.printAll lines).now = h.now := by
  rw [Host.printAll_eq]

/-- Messages leave the clock. -/
theorem now_observe (events : List Event) : (s.observe events).host.now = s.host.now :=
  now_printAll _ _

/-- So does a line of the shell. -/
theorem now_command (line : String) : (s.command line).2.host.now = s.host.now := by
  unfold command
  cases s.machine with
  | none => cases Command.parse line <;> rfl
  | some m =>
    show (s.execute m (Command.parse line)).2.host.now = s.host.now
    cases Command.parse line with
    | resume | quit | unknown => rfl
    | registers | trace | memory | disassemble => exact now_printAll _ _
    | step =>
      unfold execute
      dsimp only
      cases (m.step s.host.now).result with
      | error e => exact now_observe _ _
      | ok r => exact now_observe { s with machine := some (m.step s.host.now).machine } _

theorem stepTimesOn_still (now : Float) (limit : Nat) (h : s.host.now = now) :
    stepTimesOn limit (.still now) s = s.stepTimes limit := by
  induction limit generalizing s with
  | zero => rfl
  | succ limit ih =>
    subst h
    unfold stepTimesOn stepTimes
    cases s.machine with
    | none => rfl
    | some m =>
      have hrest := ih ({ s with machine := some (m.step s.host.now).machine }.observe
        (m.step s.host.now).events) (now_observe _ _)
      dsimp only
      rw [Machine.stepOn_still, Clock.later_still]
      cases (m.step s.host.now).result with
      | error e => rfl
      | ok r => simp only [hrest]

/-- On a clock that stands still a frame is the ordinary one. -/
theorem stepFrameOn_still : s.stepFrameOn (.still s.host.now) = s.stepFrame :=
  s.stepTimesOn_still _ _ rfl

theorem executeOn_still (m : Machine) (c : Command) :
    s.executeOn (.still s.host.now) m c = s.execute m c := by
  cases c <;> rfl

/-- So is a line of the shell. -/
theorem commandOn_still (line : String) :
    s.commandOn (.still s.host.now) line = s.command line := by
  cases hm : s.machine with
  | none => simp only [commandOn, hm]
  | some m => simp only [commandOn, command, hm, executeOn_still]

theorem readCommandsOn_still (now : Float) (console : List (Option String)) (h : s.host.now = now) :
    readCommandsOn console (.still now) s = readCommands console s := by
  induction console generalizing s with
  | nil => rfl
  | cons line rest ih =>
    subst h
    unfold readCommandsOn readCommands
    cases line with
    | none => rfl
    | some line =>
      have hnow := s.now_command (Text.lower (Text.strip line))
      dsimp only
      rw [commandOn_still, Clock.later_still]
      cases hresult : s.command (Text.lower (Text.strip line)) with
      | mk stays s' =>
        rw [hresult] at hnow
        cases stays with
        | error e => rfl
        | ok stays =>
          cases stays with
          | true => simp only [ih s' hnow]
          | false => rfl

/-- A program file is loaded as on an ordinary clock. -/
theorem loadRomOn_still (m : Machine) (path : Path) :
    s.loadRomOn (.still s.host.now) m path = s.loadRom m path := rfl

/-- A machine is made as on an ordinary clock. -/
theorem createMachineOn_still (path : Option Path) :
    s.createMachineOn (.still s.host.now) path = s.createMachine path := by
  unfold createMachineOn createMachine
  rw [Machine.switchOn_still]
  cases Machine.create s.machineSetup s.host.now s.printsTrace with
  | error e => rfl
  | ok created =>
    cases path with
    | none => rfl
    | some path =>
      have hload := (s.observe created.events).loadRomOn_still created.value path
      rw [now_observe] at hload
      dsimp only
      rw [← hload]
      rfl

/-- So is a program loaded again. -/
theorem reloadOn_still : s.reloadOn (.still s.host.now) = s.reload := by
  unfold reloadOn reload
  cases s.settings.romPath with
  | none => rfl
  | some path => cases s.machine <;> rfl

/-- The whole shell is the ordinary one. -/
theorem shellOn_still : s.shellOn (.still s.host.now) = s.shell :=
  readCommandsOn_still _ _ _ (now_printAll _ _)

end SuperChip.Session
