import SuperChip.Proofs.Core.Frame

/-!
# Arithmetic with a flag

Some operations on registers report in the flag register what does not fit into their result. That
register may be an operand as well: the operands are read before anything is written, and where the
result and the flag would go into one register, the flag stays.

- `FlagOperation`: the operations that report a flag, with the instruction of each.
- `FlagOperation.Yields`: the equation by which two bytes determine a result and a flag.
- `Core.SetsFlag`: a processor differs from another in a result and a flag, and goes on.
- `execute_instruction`: **all these operations are one assignment** of what they yield.
- `arithmetic_sets_flag`: **each leaves the result and the flag of its equation and touches nothing
  else**, whichever registers it works on.

About `op_add_vx_kk`, `op_add_vx_vy`, `op_sub`, `op_subn`, `op_shr`, `op_shl` and
`_write_with_flag`.
-/

namespace SuperChip

/-- An operation that reports a flag. -/
inductive FlagOperation where
  /-- Adds the second byte to the first. -/
  | add
  /-- Subtracts the second byte from the first. -/
  | sub
  /-- Subtracts the first byte from the second. -/
  | subn
  /-- Halves the first byte. -/
  | shr
  /-- Doubles the first byte. -/
  | shl
deriving DecidableEq, Repr

namespace FlagOperation

/-- The instruction of an operation. Halving and doubling name no second register. -/
def instruction (x y : Register) : FlagOperation → Instruction
  | add => .addReg x y
  | sub => .sub x y
  | subn => .subn x y
  | shr => .shr x
  | shl => .shl x

/-- The last digit of the words that an operation is written with. -/
def digit : FlagOperation → Nat
  | add => 0x4
  | sub => 0x5
  | subn => 0x7
  | shr => 0x6
  | shl => 0xE

/-- The result `r` and the flag `f` belong to the operands `a` and `b`. The flag of a sum is its
carry, that of a difference is zero if one was borrowed, and the others are the bit that falls
out. -/
def Yields (a b r f : Nat) : FlagOperation → Prop
  | add => r + 256 * f = a + b
  | sub => (r : Int) = a - b + 256 * (1 - f)
  | subn => (r : Int) = b - a + 256 * (1 - f)
  | shr => a = 2 * r + f
  | shl => 2 * a = r + 256 * f

/-- The result of an operation on two bytes. -/
def result (a b : UInt8) : FlagOperation → UInt8
  | add => a + b
  | sub => a - b
  | subn => b - a
  | shr => a / 2
  | shl => a + a

/-- The flag of an operation on two bytes. -/
def flag (a b : UInt8) : FlagOperation → Bool
  | add => decide (255 < a.toNat + b.toNat)
  | sub => decide (b ≤ a)
  | subn => decide (a ≤ b)
  | shr => a % 2 == 1
  | shl => decide (128 ≤ a)

/-! ## The equations -/

theorem toNat_add_carry (a b : UInt8) :
    (a + b).toNat + 256 * (decide (255 < a.toNat + b.toNat)).toNat = a.toNat + b.toNat := by
  have ha := a.toNat_lt
  have hb := b.toNat_lt
  rw [UInt8.toNat_add]
  by_cases h : 255 < a.toNat + b.toNat
  · simp only [decide_eq_true h, Bool.toNat_true]
    omega
  · simp only [decide_eq_false h, Bool.toNat_false]
    omega

theorem toNat_sub_borrow (a b : UInt8) :
    ((a - b).toNat : Int) = a.toNat - b.toNat + 256 * (1 - (decide (b ≤ a)).toNat) := by
  have ha := a.toNat_lt
  have hb := b.toNat_lt
  rw [UInt8.toNat_sub]
  by_cases h : b ≤ a
  · have hle : b.toNat ≤ a.toNat := h
    simp only [decide_eq_true h, Bool.toNat_true]
    omega
  · have hlt : ¬ b.toNat ≤ a.toNat := h
    simp only [decide_eq_false h, Bool.toNat_false]
    omega

theorem toNat_half (a : UInt8) : a.toNat = 2 * (a / 2).toNat + (a % 2 == 1).toNat := by
  have hdiv : (a / 2).toNat = a.toNat / 2 := UInt8.toNat_div a 2
  have hmod : (a % 2).toNat = a.toNat % 2 := UInt8.toNat_mod a 2
  rw [hdiv]
  by_cases h : a % 2 = 1
  · rw [h] at hmod
    have hodd : 1 = a.toNat % 2 := hmod
    rw [beq_iff_eq.2 h, Bool.toNat_true]
    omega
  · have heven : a.toNat % 2 ≠ 1 := fun hodd => h (UInt8.toNat_inj.1 (hmod.trans hodd))
    rw [beq_eq_false_iff_ne.2 h, Bool.toNat_false]
    omega

/-- The highest bit is the carry of doubling. -/
theorem highest_eq_carry (a : UInt8) : decide (128 ≤ a) = decide (255 < a.toNat + a.toNat) := by
  have hle : 128 ≤ a ↔ 128 ≤ a.toNat := Iff.rfl
  rw [decide_eq_decide, hle]
  omega

/-- **The result and the flag of an operation solve its equation.** -/
theorem yields (op : FlagOperation) (a b : UInt8) :
    op.Yields a.toNat b.toNat (op.result a b).toNat (op.flag a b).toNat := by
  cases op with
  | add => exact toNat_add_carry a b
  | sub => exact toNat_sub_borrow a b
  | subn => exact toNat_sub_borrow b a
  | shr => exact toNat_half a
  | shl =>
    show 2 * a.toNat = (a + a).toNat + 256 * (decide (128 ≤ a)).toNat
    rw [highest_eq_carry, toNat_add_carry]
    omega

end FlagOperation

/-! ## What is written -/

namespace Core

/-- A processor has a flag and, in another register than that of the flag, a result, and goes on at
the next word. It does not differ in anything else. -/
structure SetsFlag (c : Core) (x : Register) (r f : UInt8) (c' : Core) : Prop where
  flag : c'.registers.get Registers.flag = f
  result : x ≠ Registers.flag → c'.registers.get x = r
  others : ∀ k, k ≠ x → k ≠ Registers.flag → c'.registers.get k = c.registers.get k
  rest : c' = { c with
    registers := { c.registers with v := c'.registers.v, pc := c.registers.pc + 2 } }

variable (c : Core) (keys : Keys)

/-- The flag is written last. -/
theorem setsFlag_assignWithFlag (x : Register) (r : UInt8) (flag : Bool) :
    c.SetsFlag x r (if flag then 1 else 0) (c.assignWithFlag x r flag) where
  flag := Registers.get_set_self _ _ _
  result hx := by
    refine (Registers.get_set_of_ne _ _ hx).trans ?_
    exact Registers.get_set_self _ _ _
  others _ hx hflag := get_assignWithFlag_of_ne hx hflag r flag
  rest := rfl

/-- **An operation is one assignment**, of what it yields for the operands as they were before. -/
theorem execute_instruction (op : FlagOperation) (x y : Register) :
    c.execute keys (op.instruction x y) =
      (c.assignWithFlag x (op.result (c.registers.get x) (c.registers.get y))
        (op.flag (c.registers.get x) (c.registers.get y))).completed := by
  cases op <;> rfl

end Core

/-! ## The words -/

/-- The arithmetic words with the digit of an operation are those of its instruction. -/
theorem FlagOperation.ofWord_eq (op : FlagOperation) {w : Word} (hfamily : w.family.val = 0x8)
    (hdigit : w.n.val = op.digit) : Instruction.ofWord w = .ok (op.instruction w.x w.y) := by
  rw [Instruction.ofWord, hfamily]
  show (Instruction.ofArithmeticWord? w).elim _ _ = _
  rw [Instruction.ofArithmeticWord?, hdigit]
  cases op <;> rfl

theorem Instruction.ofWord_addByte {w : Word} (hfamily : w.family.val = 0x7) :
    Instruction.ofWord w = .ok (.addByte w.x w.kk) := by
  rw [Instruction.ofWord, hfamily]
  rfl

/-! ## Everything together -/

/-- **Arithmetic with a flag leaves the result and the flag of its equation and touches nothing
else**, also where the two registers are the same or one of them is that of the flag. Adding the
byte of an instruction sets no flag. The words of both families are decoded to these instructions,
with the registers and the byte that they name. -/
theorem arithmetic_sets_flag (c : Core) (keys : Keys) (x y : Register) :
    (∀ op : FlagOperation,
        (∀ w : Word, w.family.val = 0x8 → w.n.val = op.digit →
          Instruction.ofWord w = .ok (op.instruction w.x w.y)) ∧
        ∃ r f c', f.toNat ≤ 1 ∧
          op.Yields (c.registers.get x).toNat (c.registers.get y).toNat r.toNat f.toNat ∧
          c.execute keys (op.instruction x y) = (.ok (), c') ∧ c.SetsFlag x r f c') ∧
      (∀ w : Word, w.family.val = 0x7 → Instruction.ofWord w = .ok (.addByte w.x w.kk)) ∧
      ∀ byte, ∃ c', c.execute keys (.addByte x byte) = (.ok (), c') ∧
        (c'.registers.get x).toNat = ((c.registers.get x).toNat + byte.toNat) % 256 ∧
        (∀ k, k ≠ x → c'.registers.get k = c.registers.get k) ∧
        c' = { c with
          registers := { c.registers with v := c'.registers.v, pc := c.registers.pc + 2 } } := by
  refine ⟨fun op => ⟨fun w => op.ofWord_eq, ?_⟩, fun w => Instruction.ofWord_addByte,
    fun byte => ?_⟩
  · let a := c.registers.get x
    let b := c.registers.get y
    have hflag : (if op.flag a b then 1 else 0 : UInt8).toNat = (op.flag a b).toNat := by
      cases op.flag a b <;> rfl
    refine ⟨op.result a b, if op.flag a b then 1 else 0, _, ?_, ?_,
      c.execute_instruction keys op x y, c.setsFlag_assignWithFlag x _ _⟩
    · rw [hflag]
      exact Bool.toNat_le _
    · rw [hflag]
      exact op.yields a b
  · refine ⟨_, rfl, ?_, fun k hk => Registers.get_set_of_ne _ _ hk, rfl⟩
    show ((c.registers.set x _).get x).toNat = _
    rw [Registers.get_set_self, UInt8.toNat_add]

/-- The word that adds the flag register to itself: its only trace is the carry. -/
theorem arithmetic_sets_flag_of_itself :
    let c := Core.start [0x8F, 0xF4] ⟨.start 1 0 0, .start 1 0 0⟩ (.seeded 0)
    Instruction.ofWord 0x8FF4 = .ok (.addReg 0xF 0xF) ∧
      ∃ c', c.execute (Vector.replicate 16 false) (.addReg 0xF 0xF) = (.ok (), c') ∧
        c'.registers.get 0xF = 0 := by
  intro c
  obtain ⟨hadd, -⟩ := arithmetic_sets_flag c (Vector.replicate 16 false) 0xF 0xF
  obtain ⟨hword, r, f, c', hf, hyields, hexecute, hsets⟩ := hadd .add
  have hzero : f.toNat = 0 := by
    have hsum : r.toNat + 256 * f.toNat = 0 + 0 := hyields
    omega
  exact ⟨hword 0x8FF4 rfl rfl, c', hexecute, hsets.flag.trans (UInt8.toNat_inj.1 hzero)⟩

end SuperChip
