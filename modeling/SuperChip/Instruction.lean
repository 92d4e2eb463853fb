import SuperChip.Text.Hex

/-!
# Instructions

An instruction is its operation together with the operands that the operation uses, and nothing
else: two machine words that mean the same give the same `Instruction`.

- `Instruction`: the operations, in the order of their words.
- `Instruction.mnemonic`, `Instruction.operands`, `Instruction.text`: how an instruction is
  written. The text is a function of the instruction alone.
- `Instruction.form`: the operation by name, without its operands.

Models `Op`, `Instruction.text` and `Op.mnemonic`.
-/

namespace SuperChip

open Text

/-- One of the byte registers `V0` to `VF`. -/
abbrev Register := Fin 16

/-- One of the flag registers, which keep copies of `V0` to `V7`. -/
abbrev FlagRegister := Fin 8

/-- A place in the 12-bit address space. -/
abbrev Address := BitVec 12

/-- The operations of the processor with their operands. -/
inductive Instruction where
  /-- Does nothing; once called a routine of the host. -/
  | sys (target : Address)
  /-- Clears the screen. -/
  | cls
  /-- Returns from a call. -/
  | ret
  /-- Scrolls the screen down. -/
  | scd (rows : Fin 16)
  /-- Scrolls the screen right by four columns. -/
  | scr
  /-- Scrolls the screen left by four columns. -/
  | scl
  /-- Ends the program. -/
  | exit
  /-- Switches to the low resolution. -/
  | low
  /-- Switches to the high resolution. -/
  | high
  /-- Jumps. -/
  | jp (target : Address)
  /-- Calls. -/
  | call (target : Address)
  /-- Skips the next word if `Vx` is the byte. -/
  | seByte (x : Register) (byte : UInt8)
  /-- Skips the next word if `Vx` is not the byte. -/
  | sneByte (x : Register) (byte : UInt8)
  /-- Skips the next word if `Vx` is `Vy`. -/
  | seReg (x y : Register)
  /-- Sets `Vx` to the byte. -/
  | ldByte (x : Register) (byte : UInt8)
  /-- Adds the byte to `Vx`. -/
  | addByte (x : Register) (byte : UInt8)
  /-- Sets `Vx` to `Vy`. -/
  | ldReg (x y : Register)
  /-- Sets `Vx` to `Vx` or `Vy`, bit by bit. -/
  | or (x y : Register)
  /-- Sets `Vx` to `Vx` and `Vy`, bit by bit. -/
  | and (x y : Register)
  /-- Sets `Vx` to the bits in which `Vx` and `Vy` differ. -/
  | xor (x y : Register)
  /-- Adds `Vy` to `Vx`; the flag is the carry. -/
  | addReg (x y : Register)
  /-- Subtracts `Vy` from `Vx`; the flag says that nothing was borrowed. -/
  | sub (x y : Register)
  /-- Halves `Vx`; the flag is the bit that falls out. -/
  | shr (x : Register)
  /-- Sets `Vx` to `Vy` less `Vx`; the flag says that nothing was borrowed. -/
  | subn (x y : Register)
  /-- Doubles `Vx`; the flag is the bit that falls out. -/
  | shl (x : Register)
  /-- Skips the next word if `Vx` is not `Vy`. -/
  | sneReg (x y : Register)
  /-- Sets the index register. -/
  | ldIndex (target : Address)
  /-- Jumps to the address plus `V0`. -/
  | jpOffset (target : Address)
  /-- Sets `Vx` to a random byte under a mask. -/
  | rnd (x : Register) (mask : UInt8)
  /-- Draws a sprite of `rows` rows at column `Vx` and row `Vy`. -/
  | drw (x y : Register) (rows : Fin 16)
  /-- Skips the next word if the key in `Vx` is down. -/
  | skp (x : Register)
  /-- Skips the next word if the key in `Vx` is up. -/
  | sknp (x : Register)
  /-- Sets `Vx` to the delay timer. -/
  | ldFromDelay (x : Register)
  /-- Waits for a key and sets `Vx` to it. -/
  | ldKey (x : Register)
  /-- Sets the delay timer to `Vx`. -/
  | ldDelay (x : Register)
  /-- Sets the sound timer to `Vx`. -/
  | ldSound (x : Register)
  /-- Adds `Vx` to the index register. -/
  | addIndex (x : Register)
  /-- Points the index register at the small glyph of the digit in `Vx`. -/
  | ldGlyph (x : Register)
  /-- Points the index register at the large glyph of the digit in `Vx`. -/
  | ldLargeGlyph (x : Register)
  /-- Stores the three decimal digits of `Vx` at the index register. -/
  | ldDecimal (x : Register)
  /-- Stores `V0` to `Vx` at the index register. -/
  | store (x : Register)
  /-- Loads `V0` to `Vx` from the index register. -/
  | load (x : Register)
  /-- Copies `V0` to `Vx` into the flag registers. -/
  | saveFlags (x : FlagRegister)
  /-- Copies the flag registers into `V0` to `Vx`. -/
  | restoreFlags (x : FlagRegister)
deriving DecidableEq, Repr

namespace Instruction

/-- The word that an instruction's text starts with. -/
def mnemonic : Instruction → String
  | sys _ => "SYS"
  | cls => "CLS"
  | ret => "RET"
  | scd _ => "SCD"
  | scr => "SCR"
  | scl => "SCL"
  | exit => "EXIT"
  | low => "LOW"
  | high => "HIGH"
  | jp _ | jpOffset _ => "JP"
  | call _ => "CALL"
  | seByte .. | seReg .. => "SE"
  | sneByte .. | sneReg .. => "SNE"
  | addByte .. | addReg .. | addIndex _ => "ADD"
  | or .. => "OR"
  | and .. => "AND"
  | xor .. => "XOR"
  | sub .. => "SUB"
  | shr _ => "SHR"
  | subn .. => "SUBN"
  | shl _ => "SHL"
  | rnd .. => "RND"
  | drw .. => "DRW"
  | skp _ => "SKP"
  | sknp _ => "SKNP"
  | ldByte .. | ldReg .. | ldIndex _ | ldFromDelay _ | ldKey _ | ldDelay _ | ldSound _
  | ldGlyph _ | ldLargeGlyph _ | ldDecimal _ | store _ | load _ | saveFlags _
  | restoreFlags _ => "LD"

/-- The name of the form that an instruction has: the word that its text starts with and, where
several forms share it, the kinds of its operands. -/
def form : Instruction → String
  | seByte .. => "SE_VX_KK"
  | sneByte .. => "SNE_VX_KK"
  | seReg .. => "SE_VX_VY"
  | ldByte .. => "LD_VX_KK"
  | addByte .. => "ADD_VX_KK"
  | ldReg .. => "LD_VX_VY"
  | addReg .. => "ADD_VX_VY"
  | sneReg .. => "SNE_VX_VY"
  | ldIndex _ => "LD_I"
  | jpOffset _ => "JP_V0"
  | ldFromDelay _ => "LD_VX_DT"
  | ldKey _ => "LD_VX_K"
  | ldDelay _ => "LD_DT_VX"
  | ldSound _ => "LD_ST_VX"
  | addIndex _ => "ADD_I_VX"
  | ldGlyph _ => "LD_F_VX"
  | ldLargeGlyph _ => "LD_HF_VX"
  | ldDecimal _ => "LD_B_VX"
  | store _ => "LD_I_VX"
  | load _ => "LD_VX_I"
  | saveFlags _ => "LD_R_VX"
  | restoreFlags _ => "LD_VX_R"
  | i => i.mnemonic

/-- A byte register as it is written. -/
def registerText (x : Register) : String := "V" ++ hexUpper 1 x.val

/-- A flag register is written as the byte register it belongs to. -/
def flagRegisterText (x : FlagRegister) : String := "V" ++ hexUpper 1 x.val

/-- An address as it is written. -/
def addressText (target : Address) : String := hexMarked 5 target.toNat

/-- A byte as it is written. -/
def byteText (byte : UInt8) : String := hexMarked 4 byte.toNat

/-- The operands as they are written, the destination first. -/
def operands : Instruction → List String
  | cls | ret | scr | scl | exit | low | high => []
  | scd rows => [toString rows.val]
  | sys target | jp target | call target => [addressText target]
  | ldIndex target => ["I", addressText target]
  | jpOffset target => ["V0", addressText target]
  | seByte x byte | sneByte x byte | ldByte x byte | addByte x byte | rnd x byte =>
    [registerText x, byteText byte]
  | seReg x y | ldReg x y | or x y | and x y | xor x y | addReg x y | sub x y | subn x y
  | sneReg x y => [registerText x, registerText y]
  | shr x | shl x | skp x | sknp x => [registerText x]
  | drw x y rows => [registerText x, registerText y, toString rows.val]
  | ldFromDelay x => [registerText x, "DT"]
  | ldKey x => [registerText x, "K"]
  | ldDelay x => ["DT", registerText x]
  | ldSound x => ["ST", registerText x]
  | addIndex x => ["I", registerText x]
  | ldGlyph x => ["F", registerText x]
  | ldLargeGlyph x => ["HF", registerText x]
  | ldDecimal x => ["B", registerText x]
  | store x => ["[I]", registerText x]
  | load x => [registerText x, "[I]"]
  | saveFlags x => ["R", flagRegisterText x]
  | restoreFlags x => [flagRegisterText x, "R"]

/-- An instruction as it is written in a listing. -/
def text (i : Instruction) : String :=
  match i.operands with
  | [] => i.mnemonic
  | operands => i.mnemonic ++ " " ++ ", ".intercalate operands

end Instruction

end SuperChip
