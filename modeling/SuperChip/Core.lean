import SuperChip.Keypad
import SuperChip.Memory
import SuperChip.Random
import SuperChip.Registers
import SuperChip.Screen
import SuperChip.Timer

/-!
# The processor core

- `Core`: the registers of the processor and everything that instructions act on.
- `Core.start`: a core before the first instruction of a program.
- `Core.fetch`, `Core.peek`: the word and the instruction at the program counter.

Models `Chip8CPU.fetch`, `reset` and what its handlers `op_*` are made of.
-/

namespace SuperChip

/-- The processor with the memory, the screen, the timers and the source of random bytes that
its instructions act on. -/
structure Core where
  registers : Registers
  memory : Ram
  screen : Screen
  timers : Timers Float
  random : RandomSource
  /-- Whether the program has ended itself. -/
  exited : Bool
  /-- Whether the instruction at the program counter waits for a key. -/
  waiting : Bool

namespace Core

/-- A core with a program in memory before its first instruction. -/
def start (program : List UInt8) (timers : Timers Float) (random : RandomSource) : Core where
  registers := .initial
  memory := .boot program
  screen := .low
  timers := timers
  random := random
  exited := false
  waiting := false

/-- The same core before the first instruction, with everything but the registers as it is. -/
def resetRegisters (c : Core) : Core :=
  { c with registers := .initial, exited := false, waiting := false }

/-- The word at the program counter. -/
def fetch (c : Core) : Except Fault Word := c.memory.load16 c.registers.pc

/-- The instruction at the program counter. -/
def peek (c : Core) : Except Fault Decoded :=
  match c.fetch with
  | .error f => .error f
  | .ok w => Decoded.ofWord w

/-! ## Small steps that instructions are made of -/

/-- Goes on to the next word, or skips it. -/
def advance (c : Core) (skip : Bool) : Core := { c with registers := c.registers.advance skip }

/-- Goes on at an address. -/
def jump (c : Core) (pc : Int) : Core := { c with registers := { c.registers with pc := pc } }

/-- Puts a byte into a register and goes on. -/
def assign (c : Core) (x : Register) (b : UInt8) : Core :=
  { c with registers := (c.registers.set x b).advance false }

/-- Puts a byte into a register, then a flag into the flag register, and goes on. When both are
the same register the flag stays. -/
def assignWithFlag (c : Core) (x : Register) (b : UInt8) (flag : Bool) : Core :=
  { c with
    registers := ((c.registers.set x b).set Registers.flag (if flag then 1 else 0)).advance false }

/-- Points the index register at an address and goes on. -/
def assignIndex (c : Core) (value : Int) : Core :=
  { c with registers := (c.registers.setIndex value).advance false }

/-- Shows another screen and goes on. -/
def display (c : Core) (screen : Screen) : Core := { c with screen := screen }.advance false

end Core

end SuperChip
