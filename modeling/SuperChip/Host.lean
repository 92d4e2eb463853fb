import SuperChip.Debug
import SuperChip.Files
import SuperChip.Frame
import SuperChip.Tone

/-!
# The host

The host is everything around the machine: the window, the audio device, the console, the files
and the clock. Here it is known in advance what the host will answer, and it remembers what it
was asked to do.

- `Call`: what a host can be asked to do.
- `Answers`: the answers to a question that is asked again and again.
- `Host`: the answers to come, the calls made so far and the lines printed so far.
- `WindowEvent`, `Pass`: what happens to the window between two frames.
-/

namespace SuperChip

/-- Something that the host is asked to do. -/
inductive Call where
  /-- Asks for an audio device of a sample rate, a format, a number of channels and a buffer. -/
  | openMixer (rate format channels buffer : Int)
  /-- Starts the window system. -/
  | start
  /-- Sets the title of the window. -/
  | caption (text : String)
  /-- Opens the window. -/
  | openWindow (width height : Int) (fullscreen : Bool)
  /-- Prepares a sound. -/
  | sound (samples : List Int16)
  /-- Looks for a channel to play on, taking one in use if need be. -/
  | findChannel
  /-- Plays the sound on a channel without end. -/
  | play (channel : Nat)
  /-- Sets the volume of a channel. -/
  | volume (channel : Nat) (volume : Float)
  /-- Stops a channel. -/
  | stop (channel : Nat)
  /-- Puts a frame into the upper left corner of the window. -/
  | blit (frame : Frame)
  /-- Shows what was put into the window. -/
  | flip
  /-- Waits so that no more than a number of frames are shown in a second. -/
  | tick (rate : Nat)
  /-- Closes the window system. -/
  | quit

/-- The answers to a question, of which the last one is given for ever. -/
structure Answers (α : Type) where
  current : α
  later : List α

namespace Answers

variable {α : Type}

/-- The answers that a list gives, or a single one if it is empty. -/
def ofList (fallback : α) : List α → Answers α
  | [] => ⟨fallback, []⟩
  | a :: rest => ⟨a, rest⟩

/-- The next answer and the answers after it. -/
def next (a : Answers α) : α × Answers α :=
  match a.later with
  | [] => (a.current, a)
  | b :: rest => (a.current, ⟨b, rest⟩)

end Answers

/-- What is known about the host. -/
structure Host where
  /-- Whether there is a window system at all. -/
  hasWindows : Bool
  /-- The sample rate of the audio device each time it is asked for, if there is a device. -/
  sampleRates : Answers (Option Int)
  /-- Whether a channel is free each time one is looked for. -/
  freeChannels : Answers Bool
  /-- The number of channels found so far. -/
  channelsFound : Nat
  /-- The lines to come from the console; nothing is an interruption. -/
  console : List (Option String)
  files : Files
  /-- The room for a row of things. -/
  room : Room
  /-- The clock reading. -/
  now : Float
  /-- A number to seed random bytes with if no seed is asked for. -/
  entropy : Int
  /-- The categories of messages that are switched on. -/
  categories : Debug.Categories
  /-- The calls made so far, the latest first. -/
  calls : List Call
  /-- The lines printed so far, the latest first. -/
  printed : List String

namespace Host

/-- The host is asked to do something. -/
def call (h : Host) (c : Call) : Host := { h with calls := c :: h.calls }

/-- A line is printed. -/
def print (h : Host) (line : String) : Host := { h with printed := line :: h.printed }

/-- Lines are printed. -/
def printAll (h : Host) (lines : List String) : Host := lines.foldl print h

/-- The messages for events are printed, as far as their categories are switched on. -/
def observe (h : Host) (events : List Event) : Host := h.printAll (Debug.lines h.categories events)

/-- The sample rate of the audio device, if there is one. -/
def sampleRate (h : Host) : Option Int × Host :=
  let (rate, later) := h.sampleRates.next
  (rate, { h with sampleRates := later })

/-- Looks for a channel to play on. Channels are numbered from one in the order in which they
are found. -/
def findChannel (h : Host) : Option Nat × Host :=
  let (free, later) := h.freeChannels.next
  let asked := { h with freeChannels := later }.call .findChannel
  if free then
    (some (h.channelsFound + 1), { asked with channelsFound := h.channelsFound + 1 })
  else (none, asked)

/-- The clock is set. -/
def setClock (h : Host) (now : Float) : Host := { h with now := now }

/-- Time passes. -/
def advance (h : Host) (seconds : Float) : Host := h.setClock (h.now + seconds)

/-- A file is written or removed. -/
def putFile (h : Host) (path : Path) (contents : Option (List UInt8)) : Host :=
  { h with files := h.files.put path contents }

/-- Lines that are printed come in front of those printed before, and nothing else changes. -/
theorem printAll_eq (h : Host) (lines : List String) :
    h.printAll lines = { h with printed := lines.reverse ++ h.printed } := by
  unfold printAll
  induction lines generalizing h with
  | nil => rfl
  | cons line rest ih =>
    rw [List.foldl_cons, ih, List.reverse_cons, List.append_assoc]
    rfl

end Host

/-- Something that happens to the window. -/
inductive WindowEvent where
  | keyDown (name : String)
  | keyUp (name : String)
  /-- The window is closed. -/
  | quit
  /-- Anything else. -/
  | other
deriving DecidableEq, Repr

/-- What happens until the events of the window are asked for: time passes, files change and
events come in. -/
structure Pass where
  /-- The seconds that pass, if the clock is looked at. -/
  elapsed : Option Float
  files : List (Path × Option (List UInt8))
  events : List WindowEvent

/-- The host after what happens before the events of the window are asked for. -/
def Host.await (h : Host) (p : Pass) : Host :=
  let later := match p.elapsed with
    | some seconds => h.advance seconds
    | none => h
  p.files.foldl (fun h (path, contents) => h.putFile path contents) later

/-- Before the events of the window are asked for, only the clock and the files change. -/
theorem Host.exists_await_eq (h : Host) (p : Pass) :
    ∃ now files, h.await p = { h with now := now, files := files } := by
  have hfiles (changes : List (Path × Option (List UInt8))) (h : Host) :
      ∃ files, changes.foldl (fun h (path, contents) => h.putFile path contents) h =
        { h with files := files } := by
    induction changes generalizing h with
    | nil => exact ⟨h.files, rfl⟩
    | cons change rest ih => exact ih (h.putFile change.1 change.2)
  obtain ⟨elapsed, changes, events⟩ := p
  cases elapsed with
  | none => exact ⟨h.now, hfiles changes h⟩
  | some seconds => exact ⟨h.now + seconds, hfiles changes (h.advance seconds)⟩

end SuperChip
