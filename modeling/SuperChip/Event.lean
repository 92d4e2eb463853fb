import SuperChip.Instruction.Decode
import SuperChip.Trace

/-!
# Events

Operations report what happens while they run as a list of events, beside their result and
never in place of it. Nothing reads an event back, so reporting cannot change what happens.

- `Event`: what can happen.
- `Observed`: a result together with the events on the way to it.
-/

namespace SuperChip

/-- Something that happens while an operation runs. -/
inductive Event where
  /-- The instruction at `pc` was read and is about to be executed. -/
  | fetched (pc : Int) (decoded : Decoded)
  /-- A timer counted down to `value`. -/
  | counted (timer : String) (value : UInt8)
  /-- A key went down or came up. -/
  | keyChanged (key : Fin 16) (pressed : Bool)
  /-- A key of the host that is bound to no key of the keypad was pressed or released. -/
  | unboundKey (name : String) (pressed : Bool)
  /-- A machine was reset with a program of `size` bytes. -/
  | reset (size : Nat)
  /-- A machine met a fault. -/
  | failed (fault : Fault)
  /-- A machine halted at `pc`. -/
  | halted (reason : Option String) (pc : Int)
  /-- A program was loaded from a file. -/
  | loaded (name : String) (size : Nat)
  /-- A step was recorded. -/
  | traced (entry : Trace.Entry)
  /-- The tone was switched on or off. -/
  | tone (on : Bool)
  /-- There is no audio device to play the tone on. -/
  | mixerMissing
  /-- The tone could not be prepared. -/
  | beeperRefused (reason : String)
deriving DecidableEq, Repr

/-- A result and the events on the way to it, in order. -/
structure Observed (α : Type) where
  value : α
  events : List Event

namespace Observed

variable {α β : Type}

/-- A result on whose way nothing happened. -/
def quiet (value : α) : Observed α := ⟨value, []⟩

/-- The same events with another result. -/
def map (f : α → β) (o : Observed α) : Observed β := ⟨f o.value, o.events⟩

end Observed

end SuperChip
