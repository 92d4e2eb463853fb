import SuperChip.Proofs.Core.Arithmetic
import SuperChip.Proofs.Instruction.Operand
import SuperChip.Proofs.Instruction.Table

/-!
# Assembly text

What is written for an instruction is enough to know the instruction: there is a reader of the
texts, and it gives every instruction back. The way back to the words is almost as tight. Every word
is the code of the instruction that is read from it, and only the second register of a shift is free
in it.

- `Instruction.args`, `Instruction.ofText?`: the operands of an instruction, and the reader.
- `Instruction.ofText?_text`, `Instruction.text_injective`: **an instruction that is written is read
  back**, and no two instructions are written alike.
- `Instruction.code`, `Instruction.toNat_of_ofWord`: **a word is the code of its instruction**.
- `Word.Agrees`, `Instruction.eq_iff_agrees`: the words that are read as one instruction.
- `text_determines_behaviour`: **two words that are written alike do the same in every state**.

About `Instruction.text` and `decode`.
-/

namespace SuperChip

open Text

/-! ## Reading an instruction -/

namespace Instruction

open Operand

/-- The byte register that a flag register belongs to. -/
def registerOf (x : FlagRegister) : Register := ⟨x.val, Nat.lt_trans x.isLt (by decide)⟩

/-- The operands of an instruction, the destination first. -/
def args : Instruction → List Operand
  | cls | ret | scr | scl | exit | low | high => []
  | scd count => [rows count]
  | sys target | jp target | call target => [address target]
  | ldIndex target => [index, address target]
  | jpOffset target => [register Registers.base, address target]
  | seByte x b | sneByte x b | ldByte x b | addByte x b | rnd x b => [register x, byte b]
  | seReg x y | ldReg x y | or x y | and x y | xor x y | addReg x y | sub x y | subn x y
  | sneReg x y => [register x, register y]
  | shr x | shl x | skp x | sknp x => [register x]
  | drw x y count => [register x, register y, rows count]
  | ldFromDelay x => [register x, delay]
  | ldKey x => [register x, key]
  | ldDelay x => [delay, register x]
  | ldSound x => [sound, register x]
  | addIndex x => [index, register x]
  | ldGlyph x => [glyph, register x]
  | ldLargeGlyph x => [largeGlyph, register x]
  | ldDecimal x => [decimal, register x]
  | store x => [indexed, register x]
  | load x => [register x, indexed]
  | saveFlags x => [flags, register (registerOf x)]
  | restoreFlags x => [register (registerOf x), flags]

theorem operands_eq (i : Instruction) : i.operands = i.args.map Operand.text := by
  cases i <;> rfl

/-- The flag register with the number of a byte register. -/
def flagRegister? (x : Register) : Option FlagRegister :=
  if h : x.val < 8 then some ⟨x, h⟩ else none

/-- The instruction of a mnemonic with operands. -/
def ofArgs? : String → List Operand → Option Instruction
  | "SYS", [address target] => some (sys target)
  | "CLS", [] => some cls
  | "RET", [] => some ret
  | "SCD", [rows count] => some (scd count)
  | "SCR", [] => some scr
  | "SCL", [] => some scl
  | "EXIT", [] => some exit
  | "LOW", [] => some low
  | "HIGH", [] => some high
  | "JP", [address target] => some (jp target)
  | "JP", [register _, address target] => some (jpOffset target)
  | "CALL", [address target] => some (call target)
  | "SE", [register x, byte b] => some (seByte x b)
  | "SE", [register x, register y] => some (seReg x y)
  | "SNE", [register x, byte b] => some (sneByte x b)
  | "SNE", [register x, register y] => some (sneReg x y)
  | "ADD", [register x, byte b] => some (addByte x b)
  | "ADD", [register x, register y] => some (addReg x y)
  | "ADD", [index, register x] => some (addIndex x)
  | "OR", [register x, register y] => some (or x y)
  | "AND", [register x, register y] => some (and x y)
  | "XOR", [register x, register y] => some (xor x y)
  | "SUB", [register x, register y] => some (sub x y)
  | "SUBN", [register x, register y] => some (subn x y)
  | "SHR", [register x] => some (shr x)
  | "SHL", [register x] => some (shl x)
  | "RND", [register x, byte b] => some (rnd x b)
  | "DRW", [register x, register y, rows count] => some (drw x y count)
  | "SKP", [register x] => some (skp x)
  | "SKNP", [register x] => some (sknp x)
  | "LD", [register x, byte b] => some (ldByte x b)
  | "LD", [register x, register y] => some (ldReg x y)
  | "LD", [index, address target] => some (ldIndex target)
  | "LD", [register x, delay] => some (ldFromDelay x)
  | "LD", [register x, key] => some (ldKey x)
  | "LD", [delay, register x] => some (ldDelay x)
  | "LD", [sound, register x] => some (ldSound x)
  | "LD", [glyph, register x] => some (ldGlyph x)
  | "LD", [largeGlyph, register x] => some (ldLargeGlyph x)
  | "LD", [decimal, register x] => some (ldDecimal x)
  | "LD", [indexed, register x] => some (store x)
  | "LD", [register x, indexed] => some (load x)
  | "LD", [flags, register x] => (flagRegister? x).map saveFlags
  | "LD", [register x, flags] => (flagRegister? x).map restoreFlags
  | _, _ => none

theorem flagRegister?_registerOf (x : FlagRegister) : flagRegister? (registerOf x) = some x :=
  dif_pos x.isLt

/-- An instruction is found again by its mnemonic and its operands. -/
theorem ofArgs?_args (i : Instruction) : ofArgs? i.mnemonic i.args = some i := by
  cases i with
  | saveFlags x =>
    show (flagRegister? _).map saveFlags = _
    rw [flagRegister?_registerOf]
    rfl
  | restoreFlags x =>
    show (flagRegister? _).map restoreFlags = _
    rw [flagRegister?_registerOf]
    rfl
  | _ => rfl

/-- The instruction that is written like this. -/
def ofText? (text : String) : Option Instruction :=
  match tokens text with
  | [] => none
  | mnemonic :: operands => (operands.mapM Operand.read?).bind (ofArgs? mnemonic)

/-- A mnemonic holds neither blanks nor commas. -/
theorem isToken_mnemonic (i : Instruction) : IsToken i.mnemonic := by
  cases i <;> simp only [mnemonic] <;> decide

/-- Neither does an operand. -/
theorem isToken_of_mem_operands {i : Instruction} {t : String} (h : t ∈ i.operands) :
    IsToken t := by
  rw [operands_eq] at h
  obtain ⟨o, -, rfl⟩ := List.mem_map.1 h
  exact o.isToken_text

/-- The tokens of a text are the mnemonic and the operands. -/
theorem tokens_text (i : Instruction) : tokens i.text = i.mnemonic :: i.operands := by
  unfold text
  split
  next h => rw [h, tokens_singleton i.isToken_mnemonic]
  next h => exact tokens_eq i.isToken_mnemonic (fun _ => isToken_of_mem_operands) h

/-- **An instruction that is written is read back.** -/
theorem ofText?_text (i : Instruction) : ofText? i.text = some i := by
  have hread : i.operands.mapM Operand.read? = some i.args := by
    rw [operands_eq]
    induction i.args with
    | nil => rfl
    | cons o os ih => simp [ih, Operand.read?_text]
  simp only [ofText?, tokens_text, hread, Option.bind_some, ofArgs?_args]

/-- No two instructions are written alike. -/
theorem text_injective : Function.Injective text := by
  intro i j h
  have hread := i.ofText?_text
  rw [h, ofText?_text] at hread
  exact (Option.some_inj.1 hread).symm

/-! ## Words -/

/-- The word that an instruction is written with, as a number. The second register of a shift is not
read and may be any. -/
def code (unread : Register) : Instruction → Nat
  | sys target => target.toNat
  | cls => 0x00E0
  | ret => 0x00EE
  | scd count => 0x00C0 + count.val
  | scr => 0x00FB
  | scl => 0x00FC
  | exit => 0x00FD
  | low => 0x00FE
  | high => 0x00FF
  | jp target => 0x1000 + target.toNat
  | call target => 0x2000 + target.toNat
  | seByte x b => 0x3000 + x.val * 0x100 + b.toNat
  | sneByte x b => 0x4000 + x.val * 0x100 + b.toNat
  | seReg x y => 0x5000 + x.val * 0x100 + y.val * 0x10
  | ldByte x b => 0x6000 + x.val * 0x100 + b.toNat
  | addByte x b => 0x7000 + x.val * 0x100 + b.toNat
  | ldReg x y => 0x8000 + x.val * 0x100 + y.val * 0x10
  | or x y => 0x8001 + x.val * 0x100 + y.val * 0x10
  | and x y => 0x8002 + x.val * 0x100 + y.val * 0x10
  | xor x y => 0x8003 + x.val * 0x100 + y.val * 0x10
  | addReg x y => 0x8004 + x.val * 0x100 + y.val * 0x10
  | sub x y => 0x8005 + x.val * 0x100 + y.val * 0x10
  | shr x => 0x8006 + x.val * 0x100 + unread.val * 0x10
  | subn x y => 0x8007 + x.val * 0x100 + y.val * 0x10
  | shl x => 0x800E + x.val * 0x100 + unread.val * 0x10
  | sneReg x y => 0x9000 + x.val * 0x100 + y.val * 0x10
  | ldIndex target => 0xA000 + target.toNat
  | jpOffset target => 0xB000 + target.toNat
  | rnd x b => 0xC000 + x.val * 0x100 + b.toNat
  | drw x y count => 0xD000 + x.val * 0x100 + y.val * 0x10 + count.val
  | skp x => 0xE09E + x.val * 0x100
  | sknp x => 0xE0A1 + x.val * 0x100
  | ldFromDelay x => 0xF007 + x.val * 0x100
  | ldKey x => 0xF00A + x.val * 0x100
  | ldDelay x => 0xF015 + x.val * 0x100
  | ldSound x => 0xF018 + x.val * 0x100
  | addIndex x => 0xF01E + x.val * 0x100
  | ldGlyph x => 0xF029 + x.val * 0x100
  | ldLargeGlyph x => 0xF030 + x.val * 0x100
  | ldDecimal x => 0xF033 + x.val * 0x100
  | store x => 0xF055 + x.val * 0x100
  | load x => 0xF065 + x.val * 0x100
  | saveFlags x => 0xF075 + x.val * 0x100
  | restoreFlags x => 0xF085 + x.val * 0x100

/-- A word of the system family is the code of what it decodes to. -/
theorem toNat_of_ofSystemWord {w : Word} (hf : w.family.val = 0x0) :
    w.toNat = (ofSystemWord w).code w.y := by
  have hw := w.toNat_eq_digits
  have hnnn := w.toNat_nnn
  unfold ofSystemWord
  split
  case h_8 =>
    split
    next hscd =>
      simp only [code, Word.n]
      omega
    next =>
      simp only [code]
      omega
  all_goals next h => exact h

/-- So is one of the arithmetic family. -/
theorem toNat_of_ofArithmeticWord? {w : Word} {i : Instruction} (hf : w.family.val = 0x8)
    (h : ofArithmeticWord? w = some i) : w.toNat = i.code w.y := by
  have hw := w.toNat_eq_digits
  unfold ofArithmeticWord? at h
  split at h
  case h_10 => cases h
  all_goals
    next hn =>
      cases h
      simp only [code]
      omega

/-- So is one of the key family. -/
theorem toNat_of_ofKeyWord? {w : Word} {i : Instruction} (hf : w.family.val = 0xE)
    (h : ofKeyWord? w = some i) : w.toNat = i.code w.y := by
  have hw := w.toNat_eq_digits
  have hkk := w.toNat_kk
  unfold ofKeyWord? at h
  split at h
  case h_3 => cases h
  all_goals
    next hbyte =>
      cases h
      simp only [code]
      omega

/-- So is one of the last family. -/
theorem toNat_of_ofMiscWord {w : Word} {i : Instruction} (hf : w.family.val = 0xF)
    (h : ofMiscWord w = .ok i) : w.toNat = i.code w.y := by
  have hw := w.toNat_eq_digits
  have hkk := w.toNat_kk
  unfold ofMiscWord at h
  split at h
  case h_11 hbyte | h_12 hbyte =>
    split at h
    · cases h
      simp only [code]
      omega
    · cases h
  case h_13 => cases h
  all_goals
    next hbyte =>
      cases h
      simp only [code]
      omega

theorem elim_eq_ok {α β : Type} {o : Option α} {e : β} {a : α}
    (h : (o.elim (.error e) .ok : Except β α) = .ok a) : o = some a := by
  cases o with
  | none => cases h
  | some b =>
    cases h
    rfl

/-- **A word is the code of its instruction.** -/
theorem toNat_of_ofWord {w : Word} {i : Instruction} (h : ofWord w = .ok i) :
    w.toNat = i.code w.y := by
  have hw := w.toNat_eq_digits
  have hkk := w.toNat_kk
  have hnnn := w.toNat_nnn
  unfold ofWord at h
  split at h
  case h_1 hf =>
    cases h
    exact toNat_of_ofSystemWord hf
  case h_9 hf => exact toNat_of_ofArithmeticWord? hf (elim_eq_ok h)
  case h_15 hf => exact toNat_of_ofKeyWord? hf (elim_eq_ok h)
  case h_16 h₀ h₁ h₂ h₃ h₄ h₅ h₆ h₇ h₈ h₉ ha hb hc hd he =>
    have hf : w.family.val = 0xF := by
      have := w.family.isLt
      grind
    exact toNat_of_ofMiscWord hf h
  case h_6 hf | h_10 hf =>
    split at h
    next hn =>
      have hzero : w.n.val = 0 := congrArg Fin.val hn
      cases h
      simp only [code]
      omega
    next => cases h
  all_goals
    next hf =>
      cases h
      simp only [code]
      omega

end Instruction

/-! ## Words that mean the same -/

namespace Word

/-- A word that halves or doubles a register. -/
def IsShift (w : Word) : Prop := w.family.val = 0x8 ∧ (w.n.val = 0x6 ∨ w.n.val = 0xE)

/-- Two words agree in every digit that is read. That of the second register of a shift is not. -/
def Agrees (w w' : Word) : Prop :=
  w.family = w'.family ∧ w.x = w'.x ∧ w.n = w'.n ∧ (w.y = w'.y ∨ w.IsShift)

variable {w w' : Word}

theorem Agrees.refl (w : Word) : w.Agrees w := ⟨rfl, rfl, rfl, .inl rfl⟩

theorem digits_of_shift {last : Nat} {x : Register} (hlast : last = 0x6 ∨ last = 0xE)
    (hw : w.toNat = 0x8000 + last + x.val * 0x100 + w.y.val * 0x10) :
    w.family.val = 0x8 ∧ w.x.val = x.val ∧ w.n.val = last := by
  have hdigits := w.toNat_eq_digits
  omega

/-- Shifts of one kind and one register agree. -/
theorem agrees_of_shift {last : Nat} {x : Register} (hlast : last = 0x6 ∨ last = 0xE)
    (hw : w.toNat = 0x8000 + last + x.val * 0x100 + w.y.val * 0x10)
    (hw' : w'.toNat = 0x8000 + last + x.val * 0x100 + w'.y.val * 0x10) : w.Agrees w' := by
  obtain ⟨hfamily, hx, hn⟩ := digits_of_shift hlast hw
  obtain ⟨hfamily', hx', hn'⟩ := digits_of_shift hlast hw'
  refine ⟨Fin.ext (hfamily.trans hfamily'.symm), Fin.ext (hx.trans hx'.symm),
    Fin.ext (hn.trans hn'.symm), .inr ⟨hfamily, ?_⟩⟩
  rw [hn]
  exact hlast

end Word

namespace Instruction

variable {w w' : Word} {i j : Instruction}

/-- Words of one instruction agree. -/
theorem agrees_of_ofWord (h : ofWord w = .ok i) (h' : ofWord w' = .ok i) : w.Agrees w' := by
  have hw := toNat_of_ofWord h
  have hw' := toNat_of_ofWord h'
  cases i with
  | shr x => exact Word.agrees_of_shift (.inl rfl) hw hw'
  | shl x => exact Word.agrees_of_shift (.inr rfl) hw hw'
  | _ =>
    obtain rfl := UInt16.toNat_inj.1 (hw.trans hw'.symm)
    exact .refl _

/-- Words that agree are read alike. -/
theorem ofWord_of_agrees (h : w.Agrees w') : ofWord w = ofWord w' := by
  obtain ⟨hfamily, hx, hn, hy | ⟨hshift, hlast⟩⟩ := h
  · rw [Word.eq_of_digits hfamily hx hy hn]
  · have hshift' := hfamily ▸ hshift
    rcases hlast with hlast | hlast
    · rw [FlagOperation.shr.ofWord_eq hshift hlast,
        FlagOperation.shr.ofWord_eq hshift' (hn ▸ hlast)]
      exact congrArg (fun x => Except.ok (shr x)) hx
    · rw [FlagOperation.shl.ofWord_eq hshift hlast,
        FlagOperation.shl.ofWord_eq hshift' (hn ▸ hlast)]
      exact congrArg (fun x => Except.ok (shl x)) hx

/-- Two words are read as one instruction just if they agree. -/
theorem eq_iff_agrees (h : ofWord w = .ok i) (h' : ofWord w' = .ok j) : i = j ↔ w.Agrees w' := by
  constructor
  · rintro rfl
    exact agrees_of_ofWord h h'
  · intro hagrees
    rw [ofWord_of_agrees hagrees, h'] at h
    exact (Except.ok.inj h).symm

end Instruction

/-- What is kept with a decoded word is the instruction that was decoded. -/
theorem Decoded.ofWord_instruction {w : Word} {d : Decoded} (h : ofWord w = .ok d) :
    Instruction.ofWord w = .ok d.instruction := by
  unfold ofWord at h
  split at h
  next hi =>
    cases h
    exact hi
  next => cases h

/-- **The text tells what an instruction does.** -/
theorem text_determines_behaviour {a b : Int} {d e : Decoded}
    (ha : Decoded.ofWord (UInt16.ofInt a) = .ok d) (hb : Decoded.ofWord (UInt16.ofInt b) = .ok e) :
    (d.text = e.text ↔ Word.Agrees (UInt16.ofInt a) (UInt16.ofInt b)) ∧
      (d.text = e.text → ∀ (c : Core) (keys : Keys),
        c.execute keys d.instruction = c.execute keys e.instruction) := by
  have hwords :=
    Instruction.eq_iff_agrees (Decoded.ofWord_instruction ha) (Decoded.ofWord_instruction hb)
  have htext : d.text = e.text ↔ d.instruction = e.instruction := Instruction.text_injective.eq_iff
  constructor
  · exact htext.trans hwords
  · intro h c keys
    rw [htext.1 h]

/-- Two shifts that differ in the register that is not read. The second word is a number below
zero, of which the low sixteen bits count. -/
theorem text_determines_shift :
    let c := Core.start [] ⟨.start 1 0 0, .start 1 0 0⟩ (.seeded 0)
    let keys := Vector.replicate 16 false
    let d : Decoded := ⟨0x8126, .shr 1⟩
    let e : Decoded := ⟨0x8136, .shr 1⟩
    Decoded.ofWord (UInt16.ofInt 0x8126) = .ok d ∧ Decoded.ofWord (UInt16.ofInt (-0x7ECA)) = .ok e ∧
      d.text = e.text ∧ Word.Agrees (UInt16.ofInt 0x8126) (UInt16.ofInt (-0x7ECA)) ∧
      c.execute keys d.instruction = c.execute keys e.instruction := by
  intro c keys d e
  have hd : Decoded.ofWord (UInt16.ofInt 0x8126) = .ok d := rfl
  have he : Decoded.ofWord (UInt16.ofInt (-0x7ECA)) = .ok e := rfl
  have htext : d.text = e.text := rfl
  obtain ⟨hagrees, hsame⟩ := text_determines_behaviour hd he
  exact ⟨hd, he, htext, hagrees.1 htext, hsame htext c keys⟩

end SuperChip
