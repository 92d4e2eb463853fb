import SuperChip.Proofs.Core.Effect
import SuperChip.Proofs.Instruction.Table

/-!
# When a step meets a fault

What a step meets is told here from the digits of the word at the program counter and from the
registers alone, as conditions that are tested in order; neither the decoder nor the instructions
take part in it.

- `Core.hindrance?`: the fault of a word that has a meaning.
- `Core.obstacle?`: the fault of a step.
- `step_of_obstacle`, `step_of_no_obstacle`: a step meets that fault and leaves the core as it was,
  and it completes if there is none.

About `Chip8CPU.fetch`, `decode`, `Memory.check_range`, `RegisterFile.push` and `pop`.
-/

namespace SuperChip

namespace Core

/-- The fault of a word that has a meaning. -/
def hindrance? (c : Core) (w : Word) : Option Fault :=
  let r := c.registers
  let i := r.i.toNat
  if Row.call.Matches w ∧ r.sp = 16 then some (.stackFull r.pc)
  else if Row.ret.Matches w ∧ r.sp = 0 then some (.stackEmpty r.pc)
  else if Row.ldDecimal.Matches w ∧ 0xFFD < i then some (.outOfBounds i 3)
  else if (Row.store.Matches w ∨ Row.load.Matches w) ∧ 0xFFF < i + w.x.val then
    some (.outOfBounds i (w.x.val + 1))
  else if Row.drw.Matches w ∧ 1 ≤ w.n.val ∧ 0x1000 < i + w.n.val then
    some (.outOfBounds i w.n.val)
  else if Row.drw.Matches w ∧ w.n.val = 0 ∧ c.screen.width = 128 ∧ c.screen.height = 64 ∧
      0xFE0 < i then
    some (.outOfBounds i 32)
  else none

/-- The fault of a step. -/
def obstacle? (c : Core) : Option Fault :=
  if 0xFFE < c.registers.pc then some (.outOfBounds c.registers.pc 2)
  else if ∀ row ∈ Row.table, ¬ row.Matches c.word then some c.word.misfit
  else c.hindrance? c.word

variable {c : Core}

/-- A word of a family without checks meets no fault. -/
theorem hindrance?_of_family {w : Word} (h : w.family.val ∉ [0x0, 0x2, 0xD, 0xF]) :
    c.hindrance? w = none := by
  simp only [List.mem_cons, List.not_mem_nil, or_false, not_or] at h
  simp [hindrance?, h]

theorem refusal?_ofSystemWord {w : Word} (hw : w.family.val = 0x0) :
    (Instruction.ofSystemWord w).refusal? c = c.hindrance? w := by
  unfold Instruction.ofSystemWord
  split
  case h_8 =>
    have hret : ¬ w.toNat = 0x00EE := by assumption
    split <;> simp [Instruction.refusal?, hindrance?, hw, hret]
  all_goals next h => simp [Instruction.refusal?, hindrance?, hw, h]

/-- An access overruns the memory under any condition that says so. -/
theorem overrun?_eq_of_iff {length : Nat} {p : Prop} [Decidable p]
    (h : p ↔ 0x1000 < c.registers.i.toNat + length) :
    c.overrun? length =
      if p then some (.outOfBounds c.registers.i.toNat length) else none := by
  simp only [overrun?, h]

theorem refusal?_drw {w : Word} (hw : w.family.val = 0xD) :
    (Instruction.drw w.x w.y w.n).refusal? c = c.hindrance? w := by
  have hi := c.registers.i.isLt
  have hr : (Instruction.drw w.x w.y w.n).refusal? c = c.overrun? (c.spriteLength w.n) := rfl
  -- a sprite without rows is large in the high resolution and empty in the low one
  by_cases hl : c.IsLargeSprite w.n
  · have hlen : c.spriteLength w.n = 32 := if_pos hl
    have hn : w.n.val = 0 := hl.1
    have hs : c.screen.width = 128 ∧ c.screen.height = 64 := by
      simpa [Screen.isHigh] using hl.2
    rw [hr, hlen, overrun?_eq_of_iff (p := 0xFE0 < c.registers.i.toNat) (by omega)]
    simp [hindrance?, hw, hn, hs]
  · have hlen : c.spriteLength w.n = w.n.val := if_neg hl
    have hs : w.n.val = 0 → ¬ (c.screen.width = 128 ∧ c.screen.height = 64) := by
      rintro hn ⟨hwidth, hheight⟩
      exact hl ⟨hn, by simp [Screen.isHigh, hwidth, hheight]⟩
    rw [hr, hlen, overrun?_eq_of_iff
      (p := 1 ≤ w.n.val ∧ 0x1000 < c.registers.i.toNat + w.n.val) (by omega)]
    have hlarge : ¬ (w.n.val = 0 ∧ c.screen.width = 128 ∧ c.screen.height = 64 ∧
        0xFE0 < c.registers.i.toNat) := fun h => hs h.1 ⟨h.2.1, h.2.2.1⟩
    simp only [hindrance?, Row.matches_call, Row.matches_ret, Row.matches_ldDecimal,
      Row.matches_store, Row.matches_load, Row.matches_drw, hw, true_and, if_neg hlarge]
    simp

theorem refusal?_ofMiscWord {w : Word} {i : Instruction} (hw : w.family.val = 0xF)
    (h : Instruction.ofMiscWord w = .ok i) : i.refusal? c = c.hindrance? w := by
  unfold Instruction.ofMiscWord at h
  split at h
  -- three of the operations reach from the index register into memory, none of the rest checks
  case h_8 hk =>
    cases h
    rw [Instruction.refusal?, overrun?_eq_of_iff (p := 0xFFD < c.registers.i.toNat) (by omega)]
    simp [hindrance?, hw, hk]
  case h_9 hk =>
    cases h
    rw [Instruction.refusal?,
      overrun?_eq_of_iff (p := 0xFFF < c.registers.i.toNat + w.x.val) (by omega)]
    simp [hindrance?, hw, hk]
  case h_10 hk =>
    cases h
    rw [Instruction.refusal?,
      overrun?_eq_of_iff (p := 0xFFF < c.registers.i.toNat + w.x.val) (by omega)]
    simp [hindrance?, hw, hk]
  case h_11 hk => split at h <;> cases h; simp [Instruction.refusal?, hindrance?, hw, hk]
  case h_12 hk => split at h <;> cases h; simp [Instruction.refusal?, hindrance?, hw, hk]
  case h_13 => cases h
  all_goals
    next hk =>
      cases h
      simp [Instruction.refusal?, hindrance?, hw, hk]

/-- The checks of an instruction are the conditions on its word. -/
theorem refusal?_of_ofWord {w : Word} {i : Instruction} (h : Instruction.ofWord w = .ok i) :
    i.refusal? c = c.hindrance? w := by
  unfold Instruction.ofWord at h
  split at h
  case h_1 hw =>
    cases h
    exact refusal?_ofSystemWord hw
  case h_3 hw =>
    cases h
    simp [Instruction.refusal?, hindrance?, hw]
  case h_14 hw =>
    cases h
    exact refusal?_drw hw
  -- the remaining families check nothing, whichever operation their words name
  case h_9 hw =>
    rw [hindrance?_of_family (by simp [hw])]
    unfold Instruction.ofArithmeticWord? at h
    split at h <;> cases h <;> rfl
  case h_15 hw =>
    rw [hindrance?_of_family (by simp [hw])]
    unfold Instruction.ofKeyWord? at h
    split at h <;> cases h <;> rfl
  case h_16 h₀ h₁ h₂ h₃ h₄ h₅ h₆ h₇ h₈ h₉ ha hb hc hd he =>
    have hw : w.family.val = 0xF := by have := w.family.isLt; grind
    exact refusal?_ofMiscWord hw h
  case h_6 hw =>
    rw [hindrance?_of_family (by simp [hw])]
    split at h <;> cases h
    rfl
  case h_10 hw =>
    rw [hindrance?_of_family (by simp [hw])]
    split at h <;> cases h
    rfl
  all_goals
    next hw =>
      cases h
      rw [hindrance?_of_family (by simp [hw])]
      rfl

/-! ## Steps -/

/-- What is at the program counter, told from its word. -/
theorem peek_eq (h : c.InRange) :
    c.peek =
      if 0xFFE < c.registers.pc then .error (.outOfBounds c.registers.pc 2)
      else Decoded.ofWord c.word := by
  by_cases hpc : 0xFFE < c.registers.pc
  · rw [peek, fetch_of_lt hpc, if_pos hpc]
  · rw [peek, fetch_of_le h.pc_nonneg (Int.not_lt.1 hpc), if_neg hpc]

/-- A step that meets a fault leaves everything as it was. -/
theorem step_of_obstacle (h : c.InRange) (keys : Keys) {f : Fault} (ho : c.obstacle? = some f) :
    c.step keys = (.error (.fault f), c) := by
  rw [step_eq h, peek_eq h]
  unfold obstacle? at ho
  split at ho
  next hpc =>
    cases ho
    rw [if_pos hpc]
  next hpc =>
    rw [if_neg hpc, Decoded.ofWord]
    split at ho
    next hno =>
      cases ho
      rw [Instruction.ofWord_eq_error_iff.2 ⟨hno, rfl⟩]
    next hrow =>
      cases hw : Instruction.ofWord c.word with
      | error g => exact absurd (Instruction.ofWord_eq_error_iff.1 hw).1 hrow
      | ok i => simp only [refusal?_of_ofWord hw, ho]

/-- A step that meets no fault completes an instruction. -/
theorem step_of_no_obstacle (h : c.InRange) (keys : Keys) (ho : c.obstacle? = none) :
    ∃ d, Decoded.ofWord c.word = .ok d ∧ c.step keys = (.ok d, c.effect keys d.instruction) := by
  rw [step_eq h, peek_eq h]
  unfold obstacle? at ho
  split at ho
  · cases ho
  next hpc =>
    rw [if_neg hpc]
    split at ho
    · cases ho
    next hrow =>
      cases hw : Instruction.ofWord c.word with
      | error g => exact absurd (Instruction.ofWord_eq_error_iff.1 hw).1 hrow
      | ok i =>
        refine ⟨⟨c.word, i⟩, by rw [Decoded.ofWord, hw], ?_⟩
        simp only [Decoded.ofWord, hw, refusal?_of_ofWord hw, ho]

/-- A word that could be fetched is the one at the program counter. -/
theorem fetch_eq_ok (h : c.InRange) {w : Word} (hf : c.fetch = .ok w) :
    c.registers.pc ≤ 0xFFE ∧ w = c.word := by
  by_cases hpc : 0xFFE < c.registers.pc
  · rw [fetch_of_lt hpc] at hf
    cases hf
  · have hle := Int.not_lt.1 hpc
    rw [fetch_of_le h.pc_nonneg hle] at hf
    cases hf
    exact ⟨hle, rfl⟩

/-- A fetched word that matches a row meets no fault but its hindrance. -/
theorem obstacle?_of_fetch (h : c.InRange) {w : Word} (hf : c.fetch = .ok w) {row : Row}
    (hrow : row ∈ Row.table) (hm : row.Matches w) : c.obstacle? = c.hindrance? w := by
  obtain ⟨hpc, rfl⟩ := fetch_eq_ok h hf
  have hno : ¬ ∀ row ∈ Row.table, ¬ row.Matches c.word := fun hno => hno row hrow hm
  rw [obstacle?, if_neg (Int.not_lt.2 hpc), if_neg hno]

/-- What hinders a word that has a meaning is no fault of the decoder. -/
theorem name_of_hindrance? {w : Word} {f : Fault} (hf : c.hindrance? w = some f) :
    f.name ≠ "DecodeError" := by
  unfold hindrance? at hf
  simp only at hf
  repeat' split at hf
  all_goals cases hf <;> simp [Fault.name]

/-! ## Accesses from the index register on -/

/-- The number of cells that a word reads or writes from the index register on. -/
inductive Accesses (c : Core) (w : Word) : Nat → Prop
  | ldDecimal : Row.ldDecimal.Matches w → Accesses c w 3
  | store : Row.store.Matches w → Accesses c w (w.x.val + 1)
  | load : Row.load.Matches w → Accesses c w (w.x.val + 1)
  | sprite : Row.drw.Matches w → c.screen.isHigh = false ∨ 1 ≤ w.n.val → Accesses c w w.n.val
  | largeSprite : Row.drw.Matches w → c.screen.isHigh → w.n.val = 0 → Accesses c w 32

/-- A word that accesses cells has a row of its own. -/
theorem Accesses.exists_row {w : Word} {length : Nat} (ha : c.Accesses w length) :
    ∃ row ∈ Row.table, row.Matches w := by
  cases ha with
  | ldDecimal hm => exact ⟨.ldDecimal, by decide, hm⟩
  | store hm => exact ⟨.store, by decide, hm⟩
  | load hm => exact ⟨.load, by decide, hm⟩
  | sprite hm _ => exact ⟨.drw, by decide, hm⟩
  | largeSprite hm _ _ => exact ⟨.drw, by decide, hm⟩

/-- An access that ends inside the memory meets no hindrance. -/
theorem Accesses.hindrance?_eq_none {w : Word} {length : Nat} (ha : c.Accesses w length)
    (hfit : c.registers.i.toNat + length ≤ 0x1000) : c.hindrance? w = none := by
  cases ha with
  | ldDecimal hm =>
    rw [Row.matches_ldDecimal] at hm
    simp [hindrance?, hm]
    omega
  | store hm =>
    rw [Row.matches_store] at hm
    simp [hindrance?, hm]
    omega
  | load hm =>
    rw [Row.matches_load] at hm
    simp [hindrance?, hm]
    omega
  | sprite hm hs =>
    rw [Row.matches_drw] at hm
    have hlarge : ¬ (w.n.val = 0 ∧ c.screen.width = 128 ∧ c.screen.height = 64 ∧
        0xFE0 < c.registers.i.toNat) := by
      rintro ⟨hn, hwidth, hheight, -⟩
      rcases hs with hs | hs
      · simp [Screen.isHigh, hwidth, hheight] at hs
      · omega
    simp only [hindrance?, Row.matches_call, Row.matches_ret, Row.matches_ldDecimal,
      Row.matches_store, Row.matches_load, Row.matches_drw, hm, true_and, if_neg hlarge]
    simp
    omega
  | largeSprite hm hs hn =>
    rw [Row.matches_drw] at hm
    simp [hindrance?, hm, hn]
    omega

/-- A fetched word whose accesses stay inside the memory completes. -/
theorem Accesses.completes {w : Word} {length : Nat} (ha : c.Accesses w length) (h : c.InRange)
    (keys : Keys) (hf : c.fetch = .ok w) (hfit : c.registers.i.toNat + length ≤ 0x1000) :
    ∃ d, (c.step keys).1 = .ok d := by
  obtain ⟨row, hrow, hm⟩ := ha.exists_row
  have ho : c.obstacle? = none :=
    (obstacle?_of_fetch h hf hrow hm).trans (ha.hindrance?_eq_none hfit)
  obtain ⟨d, -, hd⟩ := step_of_no_obstacle h keys ho
  exact ⟨d, by rw [hd]⟩

/-- **A step meets a fault exactly under the listed conditions, the first of them in order, and
completes otherwise.** In particular, once its word is fetched, an empty sprite in the low
resolution completes, so does every access that ends at the last cell or before it, and no word of
the family `0` is refused by the decoder. -/
theorem step_faults_exactly (h : c.InRange) (keys : Keys) :
    (∀ s, (c.step keys).1 = .error s ↔ ∃ f, s = .fault f ∧ c.obstacle? = some f) ∧
    ((∃ d, (c.step keys).1 = .ok d) ↔ c.obstacle? = none) ∧
    (∀ w, c.fetch = .ok w → Row.drw.Matches w → w.n.val = 0 → c.screen.width = 64 →
      ∃ d, (c.step keys).1 = .ok d) ∧
    (∀ w length, c.fetch = .ok w → c.Accesses w length →
      c.registers.i.toNat + length ≤ 0x1000 → ∃ d, (c.step keys).1 = .ok d) ∧
    (∀ w, c.fetch = .ok w → w.family.val = 0x0 →
      ∀ f, (c.step keys).1 = .error (.fault f) → f.name ≠ "DecodeError") := by
  refine ⟨fun s => ?_, ?_, fun w hf hm hn hwidth => ?_, fun w length hf ha hfit => ?_,
    fun w hf hw f hs => ?_⟩
  · cases ho : c.obstacle? with
    | some f => rw [step_of_obstacle h keys ho]; simp [eq_comm]
    | none =>
      obtain ⟨d, -, hd⟩ := step_of_no_obstacle h keys ho
      rw [hd]
      simp
  · cases ho : c.obstacle? with
    | some f => rw [step_of_obstacle h keys ho]; simp
    | none =>
      obtain ⟨d, -, hd⟩ := step_of_no_obstacle h keys ho
      rw [hd]
      simp
  · have hlow : c.screen.isHigh = false := by simp [Screen.isHigh, hwidth]
    have ha := Accesses.sprite hm (.inl hlow)
    have hi := c.registers.i.isLt
    exact ha.completes h keys hf (by omega)
  · exact ha.completes h keys hf hfit
  · have hm : (Row.leading 0x0).Matches w := (Row.matches_leading 0x0 w).2 hw
    have hobst := obstacle?_of_fetch h hf (by decide) hm
    cases ho : c.obstacle? with
    | none =>
      obtain ⟨d, -, hd⟩ := step_of_no_obstacle h keys ho
      rw [hd] at hs
      cases hs
    | some g =>
      rw [step_of_obstacle h keys ho] at hs
      cases hs
      exact name_of_hindrance? (hobst.symm.trans ho)

/-- A program that starts with a return fails at its first step. -/
theorem step_start_return (timers : Timers Float) (random : RandomSource) (keys : Keys) :
    (start [0x00, 0xEE] timers random).step keys =
      (.error (.fault (.stackEmpty 0x200)), start [0x00, 0xEE] timers random) := by
  rw [step_eq (inRange_start _ _ _), peek_start]
  rfl

theorem step_faults_at_return :
    (start [0x00, 0xEE] ⟨.start 1 0 0, .start 1 0 0⟩ (.seeded 0)).InRange ∧
      (start [0x00, 0xEE] ⟨.start 1 0 0, .start 1 0 0⟩ (.seeded 0)).obstacle? =
        some (.stackEmpty 0x200) := by
  have hrange := inRange_start [0x00, 0xEE] ⟨.start 1 0 0, .start 1 0 0⟩ (.seeded 0)
  have hs := step_start_return ⟨.start 1 0 0, .start 1 0 0⟩ (.seeded 0) (Vector.replicate 16 false)
  obtain ⟨f, hf, ho⟩ := ((step_faults_exactly hrange _).1 _).1 (congrArg Prod.fst hs)
  cases hf
  exact ⟨hrange, ho⟩

end Core

end SuperChip
