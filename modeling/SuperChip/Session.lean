import SuperChip.Beeper
import SuperChip.Machine.Snapshot
import SuperChip.Rom

/-!
# Sessions

A session shows a machine in a window of the host, hands it the keys that are pressed there and
plays its tone.

- `Settings`: what a session is asked to be.
- `Session`: the machine, the beeper and the host, and whether the session runs or is paused.
- `Session.createMachine`, `Session.reload`: making a machine and loading its program file.
- `Session.stepFrame`: the instructions of one frame.
- `Session.key`, `Session.picture`: a key of the host, and the picture to show.
- `SessionError`: why a session cannot go on.

Models `Chip8App._create_machine`, `_load_rom`, `_reload`, `_step_frame`, `_render_frame`,
`_handle_key_event` and `_init_audio`.
-/

namespace SuperChip

/-- What a session is asked to be. -/
structure Settings where
  romPath : Option Path
  /-- The window's pixels for a pixel of the low resolution. -/
  scale : Int
  /-- The instructions to execute for a frame. -/
  cyclesPerFrame : Int
  /-- The frequency of the timers in Hertz. -/
  timerRate : Float
  seed : Option Int
  fullscreen : Bool
  traceCapacity : Int
  palette : List (List Level)

namespace Settings

/-- The scale when none is asked for. -/
def defaultScale : Int := 8

/-- The instructions for a frame when no number is asked for. -/
def defaultCycles : Int := 10

end Settings

/-- Why a session cannot go on. -/
inductive SessionError where
  /-- There is no window system. -/
  | noWindows
  /-- No program file was named. -/
  | noRom
  /-- The program file does not exist. -/
  | romNotFound (path : Path)
  /-- The program file cannot be read. -/
  | romUnreadable (path : Path) (error : FileError)
  /-- The program file cannot be loaded. -/
  | romRefused (path : Path) (fault : Fault)
  /-- There is nothing, neither a machine nor the path of a program file, to be used in this
  way. -/
  | nothingTo (use : String)
  /-- A machine cannot be made like this. -/
  | invalid (reason : Invalid)
  /-- The audio device went away while it was looked at. -/
  | mixerLost
  /-- There is no beeper for the audio device. -/
  | beeper (error : BeeperError)
deriving DecidableEq, Repr

namespace SessionError

/-- The wording of an error. -/
def message : SessionError → String
  | noWindows => "pygame is required to run the UI"
  | noRom => "ROM image is required; pass a ROM path"
  | romNotFound path => "ROM file not found: " ++ path.text
  | romUnreadable path error => error.message path
  | romRefused path fault => "Failed to load ROM " ++ path.text ++ ": " ++ fault.message
  | nothingTo use => "'NoneType' object has no attribute " ++ Text.quoted use
  | invalid reason => reason.message
  | mixerLost => "'NoneType' object is not subscriptable"
  | beeper error => error.message

/-- Whether the error is one that a user can be told about, rather than a defect. -/
def isExpected : SessionError → Bool
  | noWindows | noRom | romNotFound _ | romRefused .. => true
  | romUnreadable .. | nothingTo _ | invalid _ | mixerLost => false
  | beeper error => error.isMissingAudio

end SessionError

/-- A machine in a window of the host. -/
structure Session where
  settings : Settings
  /-- The colours that the settings ask for. -/
  palette : Palette
  running : Bool
  paused : Bool
  machine : Option Machine
  beeper : Option Beeper
  host : Host

namespace Session

/-- A session before it has a machine. -/
def create (settings : Settings) (host : Host) : Except Invalid Session :=
  if settings.scale ≤ 0 then .error .frameScale
  else if settings.cyclesPerFrame ≤ 0 then .error .cyclesPerFrame
  else (Palette.ofColours? settings.palette).map fun palette =>
    { settings := settings
      palette := palette
      running := false
      paused := false
      machine := none
      beeper := none
      host := host }

/-- The messages for events are printed. -/
def observe (s : Session) (events : List Event) : Session :=
  { s with host := s.host.observe events }

/-- A line is printed. -/
def print (s : Session) (line : String) : Session := { s with host := s.host.print line }

/-- Lines are printed. -/
def printAll (s : Session) (lines : List String) : Session :=
  { s with host := s.host.printAll lines }

/-- The host is asked to do something. -/
def call (s : Session) (c : Call) : Session := { s with host := s.host.call c }

/-! ## The machine and its program -/

/-- The program in a file of the host. -/
def readRom (files : Files) (path : Path) : Except SessionError Rom :=
  match files.read path with
  | .error .missing => .error (.romNotFound path)
  | .error e => .error (.romUnreadable path e)
  | .ok bytes =>
    match Rom.ofBytes? bytes path.stem with
    | .error f => .error (.romRefused path f)
    | .ok rom => .ok rom

/-- Loads the program in a file into a machine. -/
def loadRom (s : Session) (m : Machine) (path : Path) :
    Except SessionError Unit × Machine × Session :=
  match readRom s.host.files path with
  | .error e => (.error e, m, s)
  | .ok rom =>
    let loaded := m.load s.host.now rom.data
    let (m, result) := loaded.value
    let s := s.observe loaded.events
    match result.error with
    | some f => (.error (.romRefused path f), m, s)
    | none => (.ok (), m, s.observe [.loaded rom.name rom.size])

/-- What the machine of a session is made from. -/
def machineSetup (s : Session) : Machine.Setup where
  rate := s.settings.timerRate
  bindings := Keypad.defaultBindings
  random := .seeded (s.settings.seed.getD s.host.entropy)
  traceCapacity := s.settings.traceCapacity
  room := s.host.room

/-- Whether the steps that a trace records are printed. -/
def printsTrace (s : Session) : Bool := Debug.enabled s.host.categories (some "trace")

/-- A machine with the program in a file. -/
def createMachine (s : Session) (path : Option Path) : Except SessionError Machine × Session :=
  match Machine.create s.machineSetup s.host.now s.printsTrace with
  | .error e => (.error (.invalid e), s)
  | .ok created =>
    let s := s.observe created.events
    match path with
    | none => (.error (.nothingTo "open"), s)
    | some path =>
      match s.loadRom created.value path with
      | (.error e, _, s) => (.error e, s)
      | (.ok (), m, s) => (.ok m, s)

/-- Makes a machine with the program of the settings and lets the session run with it. -/
def start (s : Session) : Except SessionError Unit × Session :=
  match s.createMachine s.settings.romPath with
  | (.error e, s) => (.error e, s)
  | (.ok m, s) => (.ok (), { s with machine := some m, running := true })

/-- Loads the program file again, lets go of all keys and goes on if paused. -/
def reload (s : Session) : Except SessionError Unit × Session :=
  match s.settings.romPath, s.machine with
  | none, _ => (.ok (), s)
  | some path, none =>
    match readRom s.host.files path with
    | .error e => (.error e, s)
    | .ok _ => (.error (.nothingTo "load"), s)
  | some path, some m =>
    match s.loadRom m path with
    | (.error e, m, s) => (.error e, { s with machine := some m })
    | (.ok (), m, s) =>
      (.ok (), { s with machine := some { m with keypad := m.keypad.reset }, paused := false })

/-! ## Frames -/

/-- The entries of a trace that are printed when a machine halts. -/
def haltTraceLength : Int := 16

/-- What is printed when a frame finds that the machine met a fault. -/
def haltReport (m : Machine) (f : Fault) : List String :=
  ("Machine halted: " ++ f.message) ::
    match m.trace with
    | some t => t.render (some haltTraceLength)
    | none => []

/-- A frame finds the machine halted: the session pauses, and says why if it did not pause
before. -/
def noteHalt (s : Session) (m : Machine) (error : Option Fault) : Session :=
  let told := match error with
    | some f => if s.paused then s else s.printAll (haltReport m f)
    | none => s
  { told with paused := true }

/-- Steps the machine, but at most `limit` times, until it is halted. -/
def stepTimes : Nat → Session → Session
  | 0, s => s
  | limit + 1, s =>
    match s.machine with
    | none => s
    | some m =>
      let stepped := m.step s.host.now
      let s := { s with machine := some stepped.machine }.observe stepped.events
      match stepped.result with
      | .error _ => s
      | .ok r => if r.halted then s.noteHalt stepped.machine r.error else stepTimes limit s

/-- Executes the instructions of one frame. -/
def stepFrame (s : Session) : Session := s.stepTimes s.settings.cyclesPerFrame.toNat

/-- Executes the instructions of one frame, for which there has to be a machine. -/
def tryFrame (s : Session) : Except SessionError Unit × Session :=
  if s.machine.isNone then (.error (.nothingTo "step"), s) else (.ok (), s.stepFrame)

/-- The picture to show in a window of a width, if there is a machine and room for it. -/
def picture (s : Session) (windowWidth : Int) : Except SessionError Frame :=
  match s.machine with
  | none => .error (.nothingTo "framebuffer_snapshot")
  | some m =>
    (Frame.fitted? s.host.room s.palette m.core.screen windowWidth).mapError .invalid

/-! ## Keys -/

/-- A key of the host is pressed or released. -/
def key (s : Session) (name : String) (pressed : Bool) : Session :=
  match s.machine with
  | none => s
  | some m =>
    match if pressed then m.keypad.press name else m.keypad.release name with
    | .error _ => s
    | .ok changed =>
      { s with machine := some { m with keypad := changed.value.1 } }.observe changed.events

end Session

end SuperChip
