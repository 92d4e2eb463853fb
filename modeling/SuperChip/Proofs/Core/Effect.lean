import SuperChip.Proofs.Core.Range

/-!
# What instructions do

An instruction either meets a fault, and then nothing changes, or it has its effect. The two are
separated here: `refusal?` is the fault, and `effect` is the core after the instruction when there
is none, so that what an instruction does can be told without its checks.

- `Instruction.refusal?`: the fault that an instruction meets.
- `Core.effect`: the core after an instruction that meets none.
- `execute_eq`, `step_eq`: **executing an instruction is its fault or its effect**, as long as the
  core is in range; `step_cases` takes a step apart.
-/

namespace SuperChip

/-! ## The fault of an instruction -/

/-- The fault of an access to so many cells from the index register on. -/
def Core.overrun? (c : Core) (length : Nat) : Option Fault :=
  if 0x1000 < c.registers.i.toNat + length then some (.outOfBounds c.registers.i.toNat length)
  else none

/-- Whether a sprite has sixteen columns and as many rows. -/
abbrev Core.IsLargeSprite (c : Core) (rows : Fin 16) : Prop := rows.val = 0 ∧ c.screen.isHigh

/-- The number of cells that a sprite takes. -/
def Core.spriteLength (c : Core) (rows : Fin 16) : Nat :=
  if c.IsLargeSprite rows then 32 else rows.val

/-- The fault that an instruction meets. -/
def Instruction.refusal? (c : Core) : Instruction → Option Fault
  | .ret => if c.registers.sp = 0 then some (.stackEmpty c.registers.pc) else none
  | .call _ => if c.registers.sp = 16 then some (.stackFull c.registers.pc) else none
  | .ldDecimal _ => c.overrun? 3
  | .store x | .load x => c.overrun? (x.val + 1)
  | .drw _ _ rows => c.overrun? (c.spriteLength rows)
  | _ => none

namespace Core

variable {c : Core} {keys : Keys}

/-- The fault if there is one, and the core after the instruction otherwise. -/
def orFault (c : Core) (fault : Option Fault) (after : Core) : Outcome :=
  match fault with
  | some f => c.faulted f
  | none => after.completed

/-! ## The effect of an instruction -/

/-- The core after a call. -/
def called (c : Core) (target : Address) : Core :=
  { c with
    registers := { c.registers with
      stack := c.registers.stack.setIfInBounds c.registers.sp.toNat (c.registers.pc + 2)
      sp := c.registers.sp + 1
      pc := target.toNat } }

/-- The core after a return. -/
def returned (c : Core) : Core :=
  { c with
    registers := { c.registers with
      sp := c.registers.sp - 1
      pc := c.registers.frameAt (c.registers.sp - 1).toNat } }

/-- The core after bytes were stored from the index register on. -/
def stored (c : Core) (bytes : List UInt8) : Core :=
  { c with memory := c.memory.place c.registers.i.toNat bytes }.advance false

/-- The bytes from the index register on. -/
def indexed (c : Core) (length : Nat) : List UInt8 :=
  c.memory.slice c.registers.i.toNat (c.registers.i.toNat + length)

/-- The core after `V0` to `Vx` were loaded from the index register on. -/
def loaded (c : Core) (x : Register) : Core :=
  { c with
    registers := { c.registers with v := withLeading c.registers.v (c.indexed (x.val + 1)) }
  }.advance false

/-- The sprite that is stored from the index register on. -/
def storedSprite (c : Core) (rows : Fin 16) : Sprite :=
  if c.IsLargeSprite rows then .ofBytePairs (c.indexed 32) else .ofBytes (c.indexed rows.val)

/-- The core after a sprite was drawn. -/
def drawn (c : Core) (x y : Register) (sprite : Sprite) : Core :=
  let drawing := c.screen.draw sprite (c.registers.get x).toNat (c.registers.get y).toNat
  { c with
    screen := drawing.1
    registers := (c.registers.set Registers.flag (if drawing.2 then 1 else 0)).advance false }

/-- The core after an instruction that meets no fault. -/
def effect (c : Core) (keys : Keys) : Instruction → Core
  | .ret => c.returned
  | .call target => c.called target
  | .ldDecimal x => c.stored (decimalDigits (c.registers.get x))
  | .store x => c.stored (leading c.registers.v (x.val + 1))
  | .load x => c.loaded x
  | .drw x y rows => c.drawn x y (c.storedSprite rows)
  | i => (c.execute keys i).2

/-! ## Executing is the fault or the effect -/

/-- An access to cells that all exist goes on with what it yields. -/
theorem checked_access {α : Type} (length : Nat) (a : α) (next : α → Core) :
    c.checked
      (if c.registers.i.toNat + length ≤ 0x1000 then .ok a
        else .error (.outOfBounds c.registers.i.toNat length)) next
      = c.orFault (c.overrun? length) (next a) := by
  unfold overrun?
  by_cases h : c.registers.i.toNat + length ≤ 0x1000
  · rw [if_pos h, if_neg (Nat.not_lt.2 h)]
    rfl
  · rw [if_neg h, if_pos (Nat.not_le.1 h)]
    rfl

/-- Bytes are stored from the index on, unless they run over the end of the memory. -/
theorem storeBytes_eq (bytes : List UInt8) :
    c.storeBytes bytes = c.orFault (c.overrun? bytes.length) (c.stored bytes) := by
  rw [storeBytes, Ram.write_natCast, checked_access]
  rfl

/-- Registers are loaded from the index on, unless that runs over the end of the memory. -/
theorem loadBytes_eq (x : Register) :
    c.loadBytes x = c.orFault (c.overrun? (x.val + 1)) (c.loaded x) := by
  have hread := Ram.read_natCast c.memory c.registers.i.toNat (x.val + 1)
  push_cast at hread
  rw [loadBytes, hread]
  exact checked_access (x.val + 1) _ _

/-- A sprite is read, unless it runs over the end of the memory. -/
theorem sprite_eq (rows : Fin 16) :
    c.sprite rows =
      if c.registers.i.toNat + c.spriteLength rows ≤ 0x1000 then .ok (c.storedSprite rows)
      else .error (.outOfBounds c.registers.i.toNat (c.spriteLength rows)) := by
  have hread := Ram.read_natCast c.memory c.registers.i.toNat
  by_cases hl : c.IsLargeSprite rows
  · have hlen : c.spriteLength rows = 32 := if_pos hl
    have h32 : (32 : Int) = (32 : Nat) := rfl
    rw [sprite, if_pos hl, h32, hread 32, storedSprite, if_pos hl, hlen]
    split <;> rfl
  · have hlen : c.spriteLength rows = rows.val := if_neg hl
    rw [sprite, if_neg hl, hread rows.val, storedSprite, if_neg hl, hlen]
    split <;> rfl

theorem drawSprite_eq (x y : Register) (rows : Fin 16) :
    c.drawSprite x y rows =
      c.orFault (c.overrun? (c.spriteLength rows)) (c.drawn x y (c.storedSprite rows)) := by
  rw [drawSprite, sprite_eq]
  exact checked_access _ _ _

/-- A call goes well, unless the stack is full. -/
theorem call_eq (h : c.InRange) (target : Address) :
    c.call target =
      c.orFault ((Instruction.call target).refusal? c) (c.called target) := by
  have := h.sp_nonneg
  have := h.sp_le
  by_cases hsp : c.registers.sp = 16
  · rw [call, Registers.push_of_full hsp, Instruction.refusal?, if_pos hsp]
    rfl
  · rw [call, Registers.push_of_lt h.sp_nonneg (by omega), Instruction.refusal?, if_neg hsp]
    rfl

/-- A return goes well, unless the stack is empty. -/
theorem returnFromCall_eq (h : c.InRange) :
    c.returnFromCall = c.orFault (Instruction.ret.refusal? c) c.returned := by
  have := h.sp_nonneg
  by_cases hsp : c.registers.sp = 0
  · rw [returnFromCall, Registers.pop_of_empty hsp, Instruction.refusal?, if_pos hsp]
    rfl
  · rw [returnFromCall, Registers.pop_of_pos (by omega) h.sp_le, Instruction.refusal?, if_neg hsp]
    rfl

/-- The number of bytes that are stored of the registers `V0` to `Vx`. -/
theorem length_leading (v : Vector UInt8 16) (x : Register) :
    (leading v (x.val + 1)).length = x.val + 1 := by
  have := x.isLt
  rw [leading, List.length_take, Vector.length_toList]
  omega

/-- **Executing an instruction is its fault or its effect.** -/
theorem execute_eq (h : c.InRange) (keys : Keys) (i : Instruction) :
    c.execute keys i = c.orFault (i.refusal? c) (c.effect keys i) := by
  cases i with
  | ret => exact returnFromCall_eq h
  | call target => exact call_eq h target
  | ldDecimal x => exact storeBytes_eq _
  | store x =>
    have := storeBytes_eq (c := c) (leading c.registers.v (x.val + 1))
    rw [length_leading] at this
    exact this
  | load x => exact loadBytes_eq x
  | drw x y rows => exact drawSprite_eq x y rows
  -- the other instructions check nothing, so their effect is what they leave
  | _ => rfl

/-- **A step is the fault of the word or of the instruction, or its effect.** -/
theorem step_eq (h : c.InRange) (keys : Keys) :
    c.step keys =
      match c.peek with
      | .error f => (.error (.fault f), c)
      | .ok d =>
        match d.instruction.refusal? c with
        | some f => (.error (.fault f), c)
        | none => (.ok d, c.effect keys d.instruction) := by
  unfold step
  cases c.peek with
  | error f => rfl
  | ok d =>
    simp only [execute_eq h]
    cases d.instruction.refusal? c <;> rfl

/-- The two ways that a step ends. -/
theorem step_cases (h : c.InRange) (keys : Keys) :
    (∃ f, c.step keys = (.error (.fault f), c)) ∨
      ∃ d, c.peek = .ok d ∧ d.instruction.refusal? c = none ∧
        c.step keys = (.ok d, c.effect keys d.instruction) := by
  rw [step_eq h]
  cases c.peek with
  | error f => exact .inl ⟨f, rfl⟩
  | ok d =>
    cases hi : d.instruction.refusal? c with
    | some f => exact .inl ⟨f, by simp only [hi]⟩
    | none => exact .inr ⟨d, rfl, hi, by simp only [hi]⟩

end Core

end SuperChip
