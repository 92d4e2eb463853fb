import SuperChip.Fault
import SuperChip.Instruction

/-!
# Decoding machine words

A machine word is sixteen bits. Its highest four bits name a family of instructions, and the
other bits hold the operands and, in some families, the operation.

- `Word.family`, `Word.x`, `Word.y`, `Word.n`, `Word.kk`, `Word.nnn`: the fields of a word.
- `Instruction.ofWord`: the instruction that is written with a word, or the fault that the
  word causes.
- `Decoded`: an instruction together with the word it was read from.

Models `decode` and `_decode_system`.
-/

namespace SuperChip

/-- The unit in which instructions are stored. -/
abbrev Word := UInt16

namespace Word

/-- The highest four bits, which name the family. -/
def family (w : Word) : Fin 16 := ⟨w.toNat / 0x1000, by have := w.toNat_lt; omega⟩

/-- The first register operand. -/
def x (w : Word) : Register := ⟨w.toNat / 0x100 % 0x10, Nat.mod_lt _ (by decide)⟩

/-- The second register operand. -/
def y (w : Word) : Register := ⟨w.toNat / 0x10 % 0x10, Nat.mod_lt _ (by decide)⟩

/-- The lowest four bits. -/
def n (w : Word) : Fin 16 := ⟨w.toNat % 0x10, Nat.mod_lt _ (by decide)⟩

/-- The byte operand. -/
def kk (w : Word) : UInt8 := UInt8.ofNat (w.toNat % 0x100)

/-- The address operand. -/
def nnn (w : Word) : Address := BitVec.ofNat 12 (w.toNat % 0x1000)

end Word

namespace Instruction

open Word

/-- The words `0nnn`: a few stand for instructions of their own, and all others are `SYS`. -/
def ofSystemWord (w : Word) : Instruction :=
  match w.toNat with
  | 0x00E0 => cls
  | 0x00EE => ret
  | 0x00FB => scr
  | 0x00FC => scl
  | 0x00FD => exit
  | 0x00FE => low
  | 0x00FF => high
  | _ => if w.toNat / 0x10 = 0x00C then scd w.n else sys w.nnn

/-- The words `8xyn`: register arithmetic, told apart by the lowest four bits. -/
def ofArithmeticWord? (w : Word) : Option Instruction :=
  match w.n.val with
  | 0x0 => some (ldReg w.x w.y)
  | 0x1 => some (or w.x w.y)
  | 0x2 => some (and w.x w.y)
  | 0x3 => some (xor w.x w.y)
  | 0x4 => some (addReg w.x w.y)
  | 0x5 => some (sub w.x w.y)
  | 0x6 => some (shr w.x)
  | 0x7 => some (subn w.x w.y)
  | 0xE => some (shl w.x)
  | _ => none

/-- The words `Exkk`: tests of a key. -/
def ofKeyWord? (w : Word) : Option Instruction :=
  match w.kk.toNat with
  | 0x9E => some (skp w.x)
  | 0xA1 => some (sknp w.x)
  | _ => none

/-- The words `Fxkk`: timers, the index register and transfers of several registers, told
apart by the low byte. Only the transfers to and from flag registers restrict `x`. -/
def ofMiscWord (w : Word) : Except Fault Instruction :=
  match w.kk.toNat with
  | 0x07 => .ok (ldFromDelay w.x)
  | 0x0A => .ok (ldKey w.x)
  | 0x15 => .ok (ldDelay w.x)
  | 0x18 => .ok (ldSound w.x)
  | 0x1E => .ok (addIndex w.x)
  | 0x29 => .ok (ldGlyph w.x)
  | 0x30 => .ok (ldLargeGlyph w.x)
  | 0x33 => .ok (ldDecimal w.x)
  | 0x55 => .ok (store w.x)
  | 0x65 => .ok (load w.x)
  | 0x75 => if h : w.x.val < 8 then .ok (saveFlags ⟨w.x, h⟩) else .error (.flagTransfer w)
  | 0x85 => if h : w.x.val < 8 then .ok (restoreFlags ⟨w.x, h⟩) else .error (.flagTransfer w)
  | _ => .error (.undefinedWord w)

/-- The instruction that is written with a word. The last row is the family `0xF`. -/
def ofWord (w : Word) : Except Fault Instruction :=
  match w.family.val with
  | 0x0 => .ok (ofSystemWord w)
  | 0x1 => .ok (jp w.nnn)
  | 0x2 => .ok (call w.nnn)
  | 0x3 => .ok (seByte w.x w.kk)
  | 0x4 => .ok (sneByte w.x w.kk)
  | 0x5 => if w.n = 0 then .ok (seReg w.x w.y) else .error (.undefinedWord w)
  | 0x6 => .ok (ldByte w.x w.kk)
  | 0x7 => .ok (addByte w.x w.kk)
  | 0x8 => (ofArithmeticWord? w).elim (.error (.undefinedWord w)) .ok
  | 0x9 => if w.n = 0 then .ok (sneReg w.x w.y) else .error (.undefinedWord w)
  | 0xA => .ok (ldIndex w.nnn)
  | 0xB => .ok (jpOffset w.nnn)
  | 0xC => .ok (rnd w.x w.kk)
  | 0xD => .ok (drw w.x w.y w.n)
  | 0xE => (ofKeyWord? w).elim (.error (.undefinedWord w)) .ok
  | _ => ofMiscWord w

end Instruction

/-- An instruction and the word it was read from. -/
structure Decoded where
  word : Word
  instruction : Instruction
deriving DecidableEq, Repr

namespace Decoded

/-- Reads the instruction that is written with a word, keeping the word. -/
def ofWord (w : Word) : Except Fault Decoded :=
  match Instruction.ofWord w with
  | .ok i => .ok ⟨w, i⟩
  | .error f => .error f

/-- How the instruction is written. -/
def text (d : Decoded) : String := d.instruction.text

/-- What is decoded keeps the word that it was decoded from. -/
theorem word_of_ofWord {w : Word} {d : Decoded} (h : ofWord w = .ok d) : d.word = w := by
  unfold ofWord at h
  split at h
  · cases h; rfl
  · cases h

end Decoded

end SuperChip
