import SuperChip.Session
import SuperChip.Text.Numeral

/-!
# The debug shell

The debug shell reads commands from the console of the host and shows what they ask for. Of
all its commands only the one for a step changes the machine.

- `Command`: what can be asked for; `Command.parse` reads it.
- `Session.execute`: the effect of a command, and whether the shell stays open.
- `Session.command`: the effect of a line, for which there may be no machine.
- `Session.shell`: commands from the console until one closes the shell.

Models `Chip8App.handle_debug_command`, `_enter_debug_shell`, `_dump_memory` and
`_dump_disassembly`, and `_parse_address`.
-/

namespace SuperChip

open Text

/-- A command of the debug shell. -/
inductive Command where
  /-- Go on with the session. -/
  | resume
  /-- End the session. -/
  | quit
  /-- Show the registers. -/
  | registers
  /-- Show the latest steps. -/
  | trace
  /-- Execute one instruction. -/
  | step
  /-- Show memory from an address on. -/
  | memory (address : String)
  /-- Show memory as assembly text from an address on. -/
  | disassemble (address : String)
  | unknown
deriving DecidableEq, Repr

namespace Command

/-- The command that a line asks for. The commands that take an address are known by their
first letter, and all that follows it is the address. -/
def parse (line : String) : Command :=
  if line ∈ ["", "resume"] then resume
  else if line ∈ ["q", "quit", "exit"] then quit
  else if line ∈ ["r", "regs", "registers"] then registers
  else if line ∈ ["t", "trace"] then trace
  else if line ∈ ["s", "step"] then step
  else match line.toList with
    | 'm' :: rest => memory (strip (String.ofList rest))
    | 'd' :: rest => disassemble (strip (String.ofList rest))
    | _ => unknown

end Command

namespace Shell

/-- The address that a text gives in base sixteen, with what is printed if it gives none. An
empty text and one that gives none stand for `fallback`. Only the low twelve bits count. -/
def address (text : String) (fallback : Int) : Address × List String :=
  if text.isEmpty then (BitVec.ofInt 12 fallback, [])
  else match readHex? text with
    | some n => (BitVec.ofInt 12 n, [])
    | none => (BitVec.ofInt 12 fallback, ["Invalid address: " ++ text])

/-- The bytes of memory that are shown at a time, and those in a row. -/
def memoryWindow : Nat := 0x40

/-- The bytes in a row of memory. -/
def rowLength : Nat := 16

/-- The bytes of memory that are shown as assembly text at a time. -/
def listingWindow : Nat := 32

/-- Bytes in rows, each behind the address of its first byte. -/
def rows (start : Nat) (bytes : List UInt8) : List String :=
  (List.range ((bytes.length + rowLength - 1) / rowLength)).map fun k =>
    hexUpper 3 (start + k * rowLength : Nat) ++ ": " ++
      " ".intercalate (((bytes.drop (k * rowLength)).take rowLength).map hexByte)

/-- What is printed of memory. -/
def memoryLines (m : Machine) (argument : String) : List String :=
  let (start, complaint) := address argument m.core.registers.i.toNat
  complaint ++
    rows start.toNat (m.core.memory.slice start.toNat (start.toNat + memoryWindow))

/-- What is printed of memory as assembly text. -/
def listingLines (m : Machine) (argument : String) : List String :=
  let (start, complaint) := address argument m.core.registers.pc
  complaint ++
    (Listing.ofBytes start.toNat
      (m.core.memory.slice start.toNat (start.toNat + listingWindow))).map Listing.Line.render

/-- The entries of a trace that are shown at a time. -/
def traceLength : Int := 32

/-- What is printed of the trace. -/
def traceLines (m : Machine) : List String :=
  match m.trace with
  | some t => t.render (some traceLength)
  | none => ["Tracing disabled; pass --trace N or set CHIP8_DEBUG=trace"]

/-- What is printed about a step: the instruction that was completed, or the status. -/
def stepLine (r : StepResult) : String :=
  match r.instruction with
  | some d => d.text
  | none => r.status.text

/-- What is printed when the shell opens. -/
def greeting : List String :=
  ["", "=== CHIP-8 Debug Menu ===",
   "Commands: [r]egisters, [t]race, [m]em <addr>, [d]isasm <addr>, [s]tep, [q]uit, " ++
     "[Enter] resume"]

end Shell

namespace Session

/-- The session ends. -/
def leave (s : Session) : Session := { s.print "Exiting emulator." with running := false }

/-- A command is none. -/
def refuse (s : Session) : Session := s.print "Unknown command"

/-- The effect of a command on the machine of a session. The answer says whether the shell
stays open. -/
def execute (s : Session) (m : Machine) : Command → Bool × Session
  | .resume => (false, s)
  | .quit => (false, s.leave)
  | .registers => (true, s.printAll m.dump.lines)
  | .trace => (true, s.printAll (Shell.traceLines m))
  | .step =>
    let stepped := m.step s.host.now
    let s := { s with machine := some stepped.machine }.observe stepped.events
    match stepped.result with
    | .error _ => (true, s)
    | .ok r => (true, s.print (Shell.stepLine r))
  | .memory argument => (true, s.printAll (Shell.memoryLines m argument))
  | .disassemble argument => (true, s.printAll (Shell.listingLines m argument))
  | .unknown => (true, s.refuse)

/-- The effect of a line. Without a machine only the commands that need none have one. -/
def command (s : Session) (line : String) : Except SessionError Bool × Session :=
  match s.machine, Command.parse line with
  | some m, c =>
    let (goOn, s) := s.execute m c
    (.ok goOn, s)
  | none, .resume => (.ok false, s)
  | none, .quit => (.ok false, s.leave)
  | none, .unknown => (.ok true, s.refuse)
  | none, .trace => (.error (.nothingTo "trace"), s)
  | none, .step => (.error (.nothingTo "step"), s)
  | none, .registers => (.error (.nothingTo "dump"), s)
  | none, .memory _ => (.error (.nothingTo "dump"), s)
  | none, .disassemble _ => (.error (.nothingTo "dump"), s)

/-- Reads lines from the console until one closes the shell, the console ends or it is
interrupted. -/
def readCommands : List (Option String) → Session → Session
  | console, s =>
    if !s.running then { s with host.console := console }
    else match console with
      | [] => { s with host.console := [] }.print "Resuming emulator."
      | none :: rest => { s with host.console := rest }.print "Resuming emulator."
      | some line :: rest =>
        match s.command (lower (strip line)) with
        | (.ok true, s) => readCommands rest s
        | (_, s) => { s with host.console := rest }

/-- Opens the shell. -/
def shell (s : Session) : Session := (s.printAll Shell.greeting).readCommands s.host.console

end Session

end SuperChip
