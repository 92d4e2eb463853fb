import SuperChip.Attempt
import SuperChip.Memory

/-!
# Accesses to a memory

A host hands a memory any integers. Those that it stores are kept modulo 256, one cell after the
other, once the bounds of the whole access were checked.

- `Memory.Op`: an operation on a memory; `Memory.require` checks bounds, `Memory.cell` and
  `Memory.put` are for cells that were checked.
- `Memory.Access`: an access to a memory; `Memory.Answer` is what it can answer.
- `Memory.attempt`: what becomes of an access, and of the memory.

Models `Memory.load8`, `load16`, `store8`, `read_block`, `write_block` and `load_program` for any
integers.
-/

namespace SuperChip.Memory

/-- An operation on a memory. -/
abbrev Op (size : Nat) (α : Type) := Attempt Fault (Memory size) α

/-- An access to a memory, with any integers. -/
inductive Access where
  | load8 (address : Int)
  | load16 (address : Int)
  | read (address length : Int)
  | store8 (address value : Int)
  | write (address : Int) (values : List Int)
  | loadProgram (program : List UInt8)
deriving DecidableEq, Repr

/-- What an access answers that is carried out. -/
inductive Answer where
  | byte (b : UInt8)
  | word (w : UInt16)
  | bytes (bytes : List UInt8)
  | done
  /-- A program of that many bytes is in its place. -/
  | loaded (size : Nat)
deriving DecidableEq, Repr

variable {size : Nat}

/-- Refuses to go on unless all cells of an access exist. -/
def require (address length : Int) : Op size Unit := do
  Attempt.ofExcept ((← get).check address length)

/-- A cell of an access. -/
def cell (address : Nat) : Op size UInt8 := do return (← get).cells[address]?.getD 0

/-- Puts a value into a cell of an access. -/
def put (address : Nat) (value : Int) : Op size Unit :=
  modify fun m => ⟨m.cells.setIfInBounds address (UInt8.ofInt value)⟩

/-- Puts one value after the other into the cells of an access. -/
def putAll (address : Nat) : List Int → Op size Unit
  | [] => return
  | v :: rest => do
    put address v
    putAll (address + 1) rest

/-- Replaces the cells from `address` on by values. -/
def putBlock (address : Int) (values : List Int) : Op size Unit := do
  require address values.length
  putAll address.toNat values

/-- What becomes of an access, and of the memory. -/
def attempt : Access → Op size Answer
  | .load8 address => do
    require address 1
    return .byte (← cell address.toNat)
  | .load16 address => do
    require address 2
    let high ← cell address.toNat
    let low ← cell (address.toNat + 1)
    return .word (wordOf high low)
  | .read address length => do
    require address length
    return .bytes ((← get).slice address.toNat (address + length).toNat)
  | .store8 address value => do
    require address 1
    put address.toNat value
    return .done
  | .write address values => do
    putBlock address values
    return .done
  | .loadProgram program =>
    if program.length > programCapacity then throw (.programTooLarge program.length)
    else do
      putBlock programStart (program.map fun b => (b.toNat : Int))
      return .loaded program.length

end SuperChip.Memory
