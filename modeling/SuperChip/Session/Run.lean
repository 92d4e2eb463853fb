import SuperChip.Session.Shell

/-!
# Running a session

A session runs frame by frame: it takes in what happened to the window, executes the
instructions of a frame, shows the picture and switches the tone.

- `Session.handle`: what an event of the window does.
- `Session.pass`: one frame.
- `Session.run`: a whole session, from the program file to the closing of the window.

Models `Chip8App.run`.
-/

namespace SuperChip.Session

/-- The frames that are shown in a second. -/
def frameRate : Nat := 60

/-- The size of the window: the low resolution at the scale of the settings. -/
def windowSize (s : Session) : Int × Int := (64 * s.settings.scale, 32 * s.settings.scale)

/-! ## Frames -/

/-- What an event of the window does. -/
def handle (s : Session) : WindowEvent → Except SessionError Unit × Session
  | .quit => (.ok (), { s with running := false })
  | .keyDown name =>
    if name = "escape" then (.ok (), s.shell)
    else if name = "f5" then s.reload
    else (.ok (), s.key name true)
  | .keyUp name => (.ok (), s.key name false)
  | .other => (.ok (), s)

/-- What events of the window do, in order and up to the first error. -/
def handleAll : List WindowEvent → Session → Except SessionError Unit × Session
  | [], s => (.ok (), s)
  | e :: rest, s =>
    match s.handle e with
    | (.error err, s) => (.error err, s)
    | (.ok (), s) => handleAll rest s

/-- Puts the picture into the window. -/
def draw (s : Session) : Except SessionError Unit × Session :=
  match s.picture s.windowSize.1 with
  | .error e => (.error e, s)
  | .ok frame => (.ok (), (s.call (.blit frame)).call .flip)

/-- Switches the tone on if the machine sounds and is not halted, and off otherwise. -/
def updateTone (s : Session) : Session :=
  match s.beeper, s.machine with
  | some b, some m =>
    let (b, host) := b.setActive (m.soundActive && !m.isHalted) s.host
    { s with beeper := some b, host := host }
  | _, _ => s

/-- One frame: what happened before it, the instructions, the picture and the tone. -/
def pass (s : Session) (p : Pass) : Except SessionError Unit × Session :=
  match { s with host := s.host.await p }.handleAll p.events with
  | (.error e, s) => (.error e, s)
  | (.ok (), s) =>
    let s := if s.paused then s else s.stepFrame
    match s.draw with
    | (.error e, s) => (.error e, s)
    | (.ok (), s) => (.ok (), s.updateTone.call (.tick frameRate))

/-- The pass in which the window is closed. -/
def closing : Pass := ⟨none, [], [.quit]⟩

/-- Frames until the session ends. After the last pass that is known the window is closed. -/
def passes : List Pass → Session → Except SessionError Unit × Session
  | [], s => if s.running then s.pass closing else (.ok (), s)
  | p :: rest, s =>
    if s.running then
      match s.pass p with
      | (.error e, s) => (.error e, s)
      | (.ok (), s) => passes rest s
    else (.ok (), s)

/-! ## The whole session -/

/-- Makes a beeper, if there is an audio device for it. -/
def initAudio (s : Session) : Except SessionError Unit × Session :=
  let (found, host) := s.host.sampleRate
  let s := { s with host := host }
  if found.isNone then (.ok (), s.observe [.mixerMissing])
  else
    let (rate, host) := s.host.sampleRate
    let s := { s with host := host }
    match rate with
    | none => (.error .mixerLost, s)
    | some rate =>
      let (made, host) := Beeper.create ⟨Beeper.defaultFrequency, rate, Beeper.defaultVolume⟩ s.host
      let s := { s with host := host }
      match made with
      | .ok b => (.ok (), { s with beeper := some b })
      | .error e =>
        if e.isMissingAudio then (.ok (), s.observe [.beeperRefused e.message])
        else (.error (.beeper e), s)

/-- Opens the window. -/
def openWindow (s : Session) : Session :=
  s.call (.openWindow s.windowSize.1 s.windowSize.2 s.settings.fullscreen)

/-- Ends the tone and closes the window system. -/
def close (s : Session) : Session :=
  match s.beeper with
  | none => s.call .quit
  | some b =>
    let (b, host) := b.shutdown s.host
    { s with beeper := some b, host := host }.call .quit

/-- Runs a session with a program file, given what happens to the window. -/
def runWith (s : Session) (path : Path) (happenings : List Pass) :
    Except SessionError Unit × Session :=
  match s.createMachine (some path) with
  | (.error e, s) => (.error e, s)
  | (.ok m, s) =>
    let s := { s with machine := some m }
    let s := ((s.call (.openMixer 44100 (-16) 1 512)).call .start).call
      (.caption ("CHIP-8 - " ++ path.name))
    match s.initAudio with
    | (.error e, s) => (.error e, s)
    | (.ok (), s) =>
      match passes happenings { s.openWindow with running := true } with
      | (.error e, s) => (.error e, s)
      | (.ok (), s) => (.ok (), s.close)

/-- Runs a session, given what happens to the window. -/
def run (s : Session) (happenings : List Pass) : Except SessionError Unit × Session :=
  if !s.host.hasWindows then (.error .noWindows, s)
  else match s.settings.romPath with
    | none => (.error .noRom, s)
    | some path => s.runWith path happenings

end SuperChip.Session
