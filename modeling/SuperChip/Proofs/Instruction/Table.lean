import SuperChip.Instruction.Decode

/-!
# The instruction table

A machine word is four hexadecimal digits. A row of the instruction table fixes some of them and
leaves the others to the operands, so that the table can be read without the decoder.

- `Digit`, `Row`: what a digit and what a word has to be; `Row.Matches` says that it is.
- `Row.table`: the rows of the instruction table.
- `Word.misfit`: the fault of a word that no row matches.
- `ofWord_isOk_iff`, `ofWord_eq_error_iff`: **the decoder accepts exactly the words that match
  a row**, and refuses every other word with its misfit.
-/

namespace SuperChip

/-! ## Digits of a word -/

namespace Word

/-- A word is made of its four digits. -/
theorem toNat_eq_digits (w : Word) :
    w.toNat = w.family.val * 0x1000 + w.x.val * 0x100 + w.y.val * 0x10 + w.n.val := by
  have := w.toNat_lt
  simp only [family, x, y, n]
  omega

/-- The byte operand is made of the last two digits. -/
theorem toNat_kk (w : Word) : w.kk.toNat = w.y.val * 0x10 + w.n.val := by
  have : w.kk.toNat = w.toNat % 0x100 := by
    simp only [kk, UInt8.toNat_ofNat']
    omega
  rw [this]
  simp only [y, n]
  omega

/-- The address operand is made of the last three digits. -/
theorem toNat_nnn (w : Word) :
    w.nnn.toNat = w.x.val * 0x100 + w.y.val * 0x10 + w.n.val := by
  have : w.nnn.toNat = w.toNat % 0x1000 := by
    simp only [nnn, BitVec.toNat_ofNat]
    omega
  rw [this]
  simp only [x, y, n]
  omega

/-- Words of the same digits are equal. -/
theorem eq_of_digits {w w' : Word} (hfamily : w.family = w'.family) (hx : w.x = w'.x)
    (hy : w.y = w'.y) (hn : w.n = w'.n) : w = w' := by
  have hw := w.toNat_eq_digits
  rw [hfamily, hx, hy, hn, ← w'.toNat_eq_digits] at hw
  exact UInt16.toNat_inj.1 hw

end Word

/-! ## Rows -/

/-- What one of the four hexadecimal digits of a word has to be. -/
inductive Digit where
  /-- A digit of an operand. -/
  | any
  /-- This digit. -/
  | only (digit : Nat)
  /-- A digit of an operand that is less than a bound. -/
  | below (bound : Nat)
deriving DecidableEq, Repr

/-- Whether a digit is as it has to be. -/
def Digit.Admits : Digit → Fin 16 → Prop
  | any, _ => True
  | only digit, k => k.val = digit
  | below bound, k => k.val < bound

instance (d : Digit) (k : Fin 16) : Decidable (d.Admits k) :=
  match d with
  | .any => inferInstanceAs (Decidable True)
  | .only digit => inferInstanceAs (Decidable (k.val = digit))
  | .below bound => inferInstanceAs (Decidable (k.val < bound))

/-- A row of the instruction table, one digit after the other. -/
structure Row where
  first : Digit
  second : Digit
  third : Digit
  fourth : Digit
deriving DecidableEq, Repr

namespace Row

/-- Whether every digit of a word is as a row says. -/
def Matches (r : Row) (w : Word) : Prop :=
  r.first.Admits w.family ∧ r.second.Admits w.x ∧ r.third.Admits w.y ∧ r.fourth.Admits w.n

instance (r : Row) (w : Word) : Decidable (r.Matches w) :=
  inferInstanceAs (Decidable (_ ∧ _ ∧ _ ∧ _))

/-- The first digit alone names the operation. -/
def leading (family : Nat) : Row := ⟨.only family, .any, .any, .any⟩

/-- The first and the last digit name the operation. -/
def outer (family last : Nat) : Row := ⟨.only family, .any, .any, .only last⟩

/-- The first digit and the last two, which are a byte, name the operation. -/
def trailing (family byte : Nat) : Row :=
  ⟨.only family, .any, .only (byte / 0x10), .only (byte % 0x10)⟩

/-- The first digit and the last two name the operation, and the second one a flag register. -/
def trailingFlags (family byte : Nat) : Row :=
  ⟨.only family, .below 8, .only (byte / 0x10), .only (byte % 0x10)⟩

/-! The rows of the operations that can meet a fault. -/

/-- `00EE`, a return. -/
def ret : Row := ⟨.only 0x0, .only 0x0, .only 0xE, .only 0xE⟩

/-- `2nnn`, a call. -/
def call : Row := leading 0x2

/-- `Dxyn`, a sprite of `n` rows. -/
def drw : Row := leading 0xD

/-- `Fx33`, the decimal digits of a register. -/
def ldDecimal : Row := trailing 0xF 0x33

/-- `Fx55`, a transfer from registers to memory. -/
def store : Row := trailing 0xF 0x55

/-- `Fx65`, a transfer from memory to registers. -/
def load : Row := trailing 0xF 0x65

/-- The instruction table. Every word of the family `0` has a meaning, so that its few special
words need no rows of their own. -/
def table : List Row :=
  [leading 0x0, leading 0x1, call, leading 0x3, leading 0x4, outer 0x5 0x0, leading 0x6,
   leading 0x7,
   outer 0x8 0x0, outer 0x8 0x1, outer 0x8 0x2, outer 0x8 0x3, outer 0x8 0x4, outer 0x8 0x5,
   outer 0x8 0x6, outer 0x8 0x7, outer 0x8 0xE,
   outer 0x9 0x0, leading 0xA, leading 0xB, leading 0xC, drw,
   trailing 0xE 0x9E, trailing 0xE 0xA1,
   trailing 0xF 0x07, trailing 0xF 0x0A, trailing 0xF 0x15, trailing 0xF 0x18,
   trailing 0xF 0x1E, trailing 0xF 0x29, trailing 0xF 0x30, ldDecimal, store, load,
   trailingFlags 0xF 0x75, trailingFlags 0xF 0x85]

/-! What a row says of the fields of a word. -/

/-- A pattern of one digit fixes the family. -/
@[simp] theorem matches_leading (family : Nat) (w : Word) :
    (leading family).Matches w ↔ w.family.val = family := by
  simp [Matches, leading, Digit.Admits]

/-- A pattern of the outer digits fixes the family and the last digit. -/
@[simp] theorem matches_outer (family last : Nat) (w : Word) :
    (outer family last).Matches w ↔ w.family.val = family ∧ w.n.val = last := by
  simp [Matches, outer, Digit.Admits]

/-- A pattern of three digits fixes the family and the low byte. -/
@[simp] theorem matches_trailing (family byte : Nat) (w : Word) :
    (trailing family byte).Matches w ↔ w.family.val = family ∧ w.kk.toNat = byte := by
  have := w.n.isLt
  simp only [Matches, trailing, Digit.Admits, true_and, w.toNat_kk]
  omega

/-- One for the flag registers leaves eight of them besides. -/
@[simp] theorem matches_trailingFlags (family byte : Nat) (w : Word) :
    (trailingFlags family byte).Matches w ↔
      w.family.val = family ∧ w.x.val < 8 ∧ w.kk.toNat = byte := by
  have := w.n.isLt
  simp only [Matches, trailingFlags, Digit.Admits, w.toNat_kk]
  omega

/-- The pattern of a return is one word. -/
@[simp] theorem matches_ret (w : Word) :
    ret.Matches w ↔ w.family.val = 0x0 ∧ w.toNat = 0x00EE := by
  have hw := w.toNat_eq_digits
  have := w.n.isLt
  have := w.y.isLt
  have := w.x.isLt
  simp only [Matches, ret, Digit.Admits]
  omega

@[simp] theorem matches_call (w : Word) : call.Matches w ↔ w.family.val = 0x2 :=
  matches_leading 0x2 w

@[simp] theorem matches_drw (w : Word) : drw.Matches w ↔ w.family.val = 0xD :=
  matches_leading 0xD w

@[simp] theorem matches_ldDecimal (w : Word) :
    ldDecimal.Matches w ↔ w.family.val = 0xF ∧ w.kk.toNat = 0x33 :=
  matches_trailing 0xF 0x33 w

@[simp] theorem matches_store (w : Word) :
    store.Matches w ↔ w.family.val = 0xF ∧ w.kk.toNat = 0x55 :=
  matches_trailing 0xF 0x55 w

@[simp] theorem matches_load (w : Word) :
    load.Matches w ↔ w.family.val = 0xF ∧ w.kk.toNat = 0x65 :=
  matches_trailing 0xF 0x65 w

end Row

/-- The fault of a word that no row matches. Those that would match if there were more flag
registers have one of their own. -/
def Word.misfit (w : Word) : Fault :=
  if (Row.trailing 0xF 0x75).Matches w ∨ (Row.trailing 0xF 0x85).Matches w then .flagTransfer w
  else .undefinedWord w

/-! ## The decoder and the table -/

namespace Instruction

open Row

/-! Which words of a refined family are accepted. -/

/-- Nine of the sixteen last digits decode in the arithmetic family. -/
theorem ofArithmeticWord?_isSome_iff (w : Word) :
    (ofArithmeticWord? w).isSome ↔ w.n.val < 8 ∨ w.n.val = 0xE := by
  unfold ofArithmeticWord?
  split
  all_goals simp_all
  omega

/-- Two low bytes decode in the key family. -/
theorem ofKeyWord?_isSome_iff (w : Word) :
    (ofKeyWord? w).isSome ↔ w.kk.toNat = 0x9E ∨ w.kk.toNat = 0xA1 := by
  unfold ofKeyWord?
  split <;> simp_all

/-- Twelve low bytes decode in the last family, two of them for eight registers only. -/
theorem ofMiscWord_isOk_iff (w : Word) :
    (ofMiscWord w).isOk ↔
      w.kk.toNat ∈ [0x07, 0x0A, 0x15, 0x18, 0x1E, 0x29, 0x30, 0x33, 0x55, 0x65] ∨
      w.x.val < 8 ∧ w.kk.toNat ∈ [0x75, 0x85] := by
  unfold ofMiscWord
  split
  case h_11 h => by_cases hx : w.x.val < 8 <;> simp [h, hx, Except.isOk, Except.toBool]
  case h_12 h => by_cases hx : w.x.val < 8 <;> simp [h, hx, Except.isOk, Except.toBool]
  all_goals simp_all [Except.isOk, Except.toBool]

theorem isOk_elim {α β : Type} (o : Option α) (e : β) :
    (o.elim (.error e) .ok : Except β α).isOk = o.isSome := by
  cases o <;> rfl

/-- **The decoder accepts exactly the words that match a row of the table.** -/
theorem ofWord_isOk_iff (w : Word) : (ofWord w).isOk ↔ ∃ r ∈ table, r.Matches w := by
  unfold ofWord
  split
  -- the families in which further digits decide come first, the others are settled by their row
  case h_6 h => by_cases hn : w.n = 0 <;> simp [table, h, hn, Except.isOk, Except.toBool]
  case h_9 h =>
    rw [isOk_elim, ofArithmeticWord?_isSome_iff]
    simp [table, h]
    omega
  case h_10 h => by_cases hn : w.n = 0 <;> simp [table, h, hn, Except.isOk, Except.toBool]
  case h_15 h =>
    rw [isOk_elim, ofKeyWord?_isSome_iff]
    simp [table, h]
  case h_16 h₀ h₁ h₂ h₃ h₄ h₅ h₆ h₇ h₈ h₉ ha hb hc hd he =>
    have h : w.family.val = 0xF := by have := w.family.isLt; grind
    rw [ofMiscWord_isOk_iff]
    by_cases hx : w.x.val < 8 <;> simp [table, h, hx, or_assoc]
  all_goals next h => simp [table, h, Except.isOk, Except.toBool]

/-- A word outside the family `F` has no misfit of its own. -/
theorem misfit_of_family_ne {w : Word} (h : w.family.val ≠ 0xF) : w.misfit = .undefinedWord w := by
  simp [Word.misfit, h]

theorem ofMiscWord_eq_error {w : Word} {f : Fault} (hw : w.family.val = 0xF)
    (h : ofMiscWord w = .error f) : f = w.misfit := by
  unfold ofMiscWord at h
  split at h
  case h_11 hk => split at h <;> simp_all [Word.misfit]
  case h_12 hk => split at h <;> simp_all [Word.misfit]
  all_goals simp_all [Word.misfit]

/-- The decoder refuses a word with its misfit. -/
theorem ofWord_eq_error {w : Word} {f : Fault} (h : ofWord w = .error f) : f = w.misfit := by
  unfold ofWord at h
  split at h
  case h_6 hw => split at h <;> simp_all [misfit_of_family_ne]
  case h_9 hw => cases ho : ofArithmeticWord? w <;> simp_all [misfit_of_family_ne]
  case h_10 hw => split at h <;> simp_all [misfit_of_family_ne]
  case h_15 hw => cases ho : ofKeyWord? w <;> simp_all [misfit_of_family_ne]
  case h_16 h₀ h₁ h₂ h₃ h₄ h₅ h₆ h₇ h₈ h₉ ha hb hc hd he =>
    have hw : w.family.val = 0xF := by have := w.family.isLt; grind
    exact ofMiscWord_eq_error hw h
  all_goals cases h

/-- A word is refused exactly if no row of the table matches it. -/
theorem ofWord_eq_error_iff {w : Word} {f : Fault} :
    ofWord w = .error f ↔ (∀ r ∈ table, ¬ r.Matches w) ∧ f = w.misfit := by
  constructor
  · intro h
    refine ⟨fun r hr hm => ?_, ofWord_eq_error h⟩
    have hok := (ofWord_isOk_iff w).2 ⟨r, hr, hm⟩
    rw [h] at hok
    cases hok
  · rintro ⟨hno, rfl⟩
    cases ho : ofWord w with
    | error g => rw [ofWord_eq_error ho]
    | ok i =>
      have hok : (ofWord w).isOk := by rw [ho]; rfl
      obtain ⟨r, hr, hm⟩ := (ofWord_isOk_iff w).1 hok
      exact absurd hm (hno r hr)

end Instruction

end SuperChip
