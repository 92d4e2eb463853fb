import SuperChip.Host

/-!
# The beeper

The beeper plays the tone on a channel of the host for as long as it is active. It keeps the
channel that it once found until it is shut down.

- `Beeper`: the tone, its volume, the channel held and whether the tone is on.
- `Beeper.create`: a beeper for the audio device of the host.
- `Beeper.setActive`, `Beeper.shutdown`: switching the tone on and off.

Models `SquareWaveBeeper`, with `set_active` and `shutdown`.
-/

namespace SuperChip

/-- Why there is no beeper. -/
inductive BeeperError where
  /-- There is no audio system. -/
  | audioMissing
  /-- There is no audio device. -/
  | mixerMissing
  /-- The frequency was refused. -/
  | invalid (reason : Invalid)
  /-- There is no wave. -/
  | tone (error : Tone.Error)
deriving DecidableEq, Repr

namespace BeeperError

/-- The wording of an error. -/
def message : BeeperError → String
  | audioMissing => "pygame is required for audio output"
  | mixerMissing => "pygame mixer must be initialised before creating SquareWaveBeeper"
  | invalid reason => reason.message
  | tone error => error.message

/-- Whether the host has no audio, and the rest can go on without it. -/
def isMissingAudio : BeeperError → Bool
  | audioMissing | mixerMissing => true
  | invalid _ | tone _ => false

end BeeperError

/-- A tone to be switched on and off. -/
structure Beeper where
  samples : List Int16
  volume : Float
  /-- The channel held, if one was found. -/
  channel : Option Nat
  active : Bool

namespace Beeper

/-- What a beeper is asked to be. -/
structure Setup where
  frequency : Float
  sampleRate : Int
  volume : Float

/-- The frequency when none is asked for. -/
def defaultFrequency : Float := 440.0

/-- The sample rate when none is asked for. -/
def defaultSampleRate : Int := 44100

/-- The volume when none is asked for. -/
def defaultVolume : Float := 0.25

/-- A volume between zero and one. What is no number is as loud as can be. -/
def clampVolume (v : Float) : Float :=
  let below := if v < 1.0 then v else 1.0
  if 0.0 < below then below else 0.0

/-- A beeper for the audio device of the host, with its tone off. -/
def create (setup : Setup) (h : Host) : Except BeeperError Beeper × Host :=
  if !h.hasWindows then (.error .audioMissing, h)
  else
    let (rate, h) := h.sampleRate
    if rate.isNone then (.error .mixerMissing, h)
    else if setup.frequency ≤ 0.0 then (.error (.invalid .toneFrequency), h)
    else match Tone.samples? h.room setup.frequency setup.sampleRate Tone.defaultAmplitude with
      | .error e => (.error (.tone e), h)
      | .ok samples =>
        (.ok ⟨samples, clampVolume setup.volume, none, false⟩, h.call (.sound samples))

/-- The channel held, or one that the host finds. -/
def takeChannel (b : Beeper) (h : Host) : Option Nat × Host :=
  match b.channel with
  | some channel => (some channel, h)
  | none => h.findChannel

/-- Starts the tone, if there is a channel for it. -/
def play (b : Beeper) (h : Host) : Beeper × Host :=
  match b.takeChannel h with
  | (none, h) => (b, h)
  | (some channel, h) =>
    ({ b with channel := some channel }, (h.call (.play channel)).call (.volume channel b.volume))

/-- Stops the tone, if it has a channel. -/
def silence (b : Beeper) (h : Host) : Host :=
  match b.channel with
  | some channel => h.call (.stop channel)
  | none => h

/-- Switches the tone on or off. Nothing happens if it is so already. -/
def setActive (b : Beeper) (active : Bool) (h : Host) : Beeper × Host :=
  if active = b.active then (b, h)
  else
    let b := { b with active := active }
    let h := h.observe [.tone active]
    if active then b.play h else (b, b.silence h)

/-- Switches the tone off and gives the channel back. -/
def shutdown (b : Beeper) (h : Host) : Beeper × Host :=
  let (b, h) := b.setActive false h
  ({ b with channel := none }, h)

end Beeper

end SuperChip
