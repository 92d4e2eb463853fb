import SuperChip.CommandLine
import SuperChip.Session.Run

/-!
# Launching

What the program does with its command line: it lists a program file as assembly text, or runs a
session with it.

- `Launch.settings`: the session that options ask for.
- `Launch.Ending`: how the program ends.
- `Launch.run`: the program, given its arguments and what happens to the window.

Models `main`.
-/

namespace SuperChip.Launch

/-- The name under which the program complains. -/
def programName : String := "run.py"

/-- How the program ends. -/
inductive Ending where
  /-- It did what it was asked to do. -/
  | done
  /-- It ends with a status, after a line about what went wrong if anything did. -/
  | exit (status : Nat) (complaint : Option String)
  /-- It cannot go on, for a reason that is not the user's. -/
  | broken (error : SessionError)
  /-- It cannot go on without the value of a setting. -/
  | blank (setting : Setting)
deriving DecidableEq, Repr

/-- The wording for a setting whose value is needed and not there. -/
def blankMessage : Setting → String
  | .seed => "The only supported seed types are: None,\nint, float, str, bytes, and bytearray."
  | .palette => "unhashable type: 'list'"
  | .trace => "'>' not supported between instances of 'list' and 'int'"
  | .scale | .cyclesPerFrame | .timerRate =>
    "'<=' not supported between instances of 'list' and 'int'"

/-- The ending for a command line that asks for what cannot be. -/
def misused (e : UsageError) : Ending :=
  .exit 2 (some (programName ++ ": error: " ++ e.message))

/-- The ending for a program file that cannot be used. -/
def failed (message : String) : Ending := .exit 1 (some (programName ++ ": " ++ message))

/-- Refuses the value of a setting that is not positive, or that is not there. -/
def positive {α : Type} [LE α] [OfNat α 0] [DecidableLE α] (setting : Setting) :
    Given α → Except Ending Unit
  | .blank => .error (.blank setting)
  | .value a => if a ≤ 0 then .error (misused (.notPositive setting)) else .ok ()

/-- What the options must hold before anything is done with them. -/
def check (o : Options) (files : Files) : Except Ending Unit :=
  match files.contains o.rom with
  | .error e => .error (.broken (.romUnreadable o.rom e))
  | .ok false => .error (misused (.romNotFound o.rom.text))
  | .ok true => do
    positive .scale o.scale
    positive .cyclesPerFrame o.cyclesPerFrame
    positive .timerRate o.timerRate

/-- The session that options ask for, or the first setting whose value is needed and not there. A
trace of a capacity below zero is none. -/
def settings (o : Options) : Except Setting Settings := do
  let scale ← o.scale.of .scale
  let cycles ← o.cyclesPerFrame.of .cyclesPerFrame
  let rate ← o.timerRate.of .timerRate
  let trace ← o.trace.of .trace
  let palette ← o.palette.of .palette
  let seed ← o.seed.of .seed
  .ok {
    romPath := some o.rom
    scale := scale
    cyclesPerFrame := cycles
    timerRate := rate
    seed := seed
    fullscreen := o.fullscreen
    traceCapacity := max 0 trace
    palette := [palette.palette.off, palette.palette.on].map fun c =>
      c.channels.map fun b => .whole b.toNat }

/-- What the program leaves behind: how it ends, its session if it had one, and the host. -/
structure Outcome where
  ending : Ending
  session : Option Session
  host : Host

/-- Lists a program file as assembly text. -/
def disassemble (o : Options) (h : Host) : Outcome :=
  match h.files.read o.rom with
  | .error e => ⟨.broken (.romUnreadable o.rom e), none, h⟩
  | .ok bytes =>
    match Rom.ofBytes? bytes o.rom.stem with
    | .error f => ⟨failed f.message, none, h⟩
    | .ok rom => ⟨.done, none, h.printAll (rom.listing Memory.programStart)⟩

/-- The ending for an error of a session. -/
def ended (e : SessionError) : Ending := if e.isExpected then failed e.message else .broken e

/-- Runs a session with settings. -/
def playWith (settings : Settings) (happenings : List Pass) (h : Host) : Outcome :=
  match Session.create settings h with
  | .error e => ⟨.broken (.invalid e), none, h⟩
  | .ok s =>
    let (result, s) := s.run happenings
    let ending := match result with
      | .ok () => .done
      | .error e => ended e
    ⟨ending, some s, s.host⟩

/-- Runs a session. Without a window system it is not noticed that there is no seed. -/
def play (o : Options) (happenings : List Pass) (h : Host) : Outcome :=
  match settings o with
  | .error .seed => ⟨if h.hasWindows then .blank .seed else ended .noWindows, none, h⟩
  | .error setting => ⟨.blank setting, none, h⟩
  | .ok settings => playWith settings happenings h

/-- The program, given its arguments and what happens to the window. -/
def run (arguments : List String) (happenings : List Pass) (h : Host) : Outcome :=
  match Options.parse arguments with
  | .error .help => ⟨.exit 0 none, none, h⟩
  | .error (.error e) => ⟨misused e, none, h⟩
  | .ok o =>
    match check o h.files with
    | .error ending => ⟨ending, none, h⟩
    | .ok () => if o.disassemble then disassemble o h else play o happenings h

end SuperChip.Launch
