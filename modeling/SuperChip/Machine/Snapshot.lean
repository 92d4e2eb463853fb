import SuperChip.Machine

/-!
# Snapshots

A snapshot is what a debugger shows of a machine.

- `Snapshot`: the registers, the timers and the status at one moment.
- `Snapshot.lines`: a snapshot as it is printed.

Models `Machine.dump` and `MachineSnapshot.format_lines`.
-/

namespace SuperChip

open Text

/-- The registers, the timers and the status of a machine at one moment. -/
structure Snapshot where
  status : Status
  pc : Int
  i : Address
  sp : Int
  v : Vector UInt8 16
  /-- The active frames. -/
  stack : List Int
  delay : UInt8
  sound : UInt8
  waiting : Bool
deriving DecidableEq

/-- What a debugger shows of a machine. -/
def Machine.dump (m : Machine) : Snapshot where
  status := m.status
  pc := m.core.registers.pc
  i := m.core.registers.i
  sp := m.core.registers.sp
  v := m.core.registers.v
  stack := m.core.registers.activeFrames
  delay := m.core.timers.delay.value
  sound := m.core.timers.sound.value
  waiting := m.core.waiting

namespace Snapshot

/-- The line of the status. An empty reason is not shown. -/
def statusLine (s : Snapshot) : String :=
  let reason := s.status.reason?.getD ""
  "STATE " ++ s.status.text ++ if reason.isEmpty then "" else " (" ++ reason ++ ")"

/-- The line of the program counter, the index register, the stack pointer and the timers. -/
def counterLine (s : Snapshot) : String :=
  "PC=" ++ hexUpper 3 s.pc ++ " I=" ++ hexUpper 3 s.i.toNat ++ " SP=" ++ hexUpper 1 s.sp ++
    " DT=" ++ hexByte s.delay ++ " ST=" ++ hexByte s.sound

/-- The line of eight byte registers from `first` on. -/
def registerLine (s : Snapshot) (first : Nat) : String :=
  " ".intercalate <| ((s.v.toList.zipIdx.drop first).take 8).map fun (b, k) =>
    "V" ++ hexUpper 1 k ++ "=" ++ hexByte b

/-- The line of the active frames. -/
def stackLine (s : Snapshot) : String :=
  "STACK " ++ if s.stack.isEmpty then "-" else " ".intercalate (s.stack.map (hexUpper 3))

/-- A snapshot as it is printed. -/
def lines (s : Snapshot) : List String :=
  [s.statusLine, s.counterLine, s.registerLine 0, s.registerLine 8, s.stackLine] ++
    if s.waiting then ["waiting for key"] else []

end Snapshot

end SuperChip
