import SuperChip.Double

/-!
# The order of the doubles

Doubles are ordered as far as they stand for numbers or for infinities; what is no number is neither
below nor above anything. The facts here are about the doubles at the two ends of that order.

- `Double.form`: what a double stands for.
- `Double.not_le_zero_iff`: what is not zero or below is positive, or no number.
- `Double.infinity`: the greatest double; `le_infinity`, `lt_infinity`: everything else is below.
- `Double.infinity_sub`: it stays what it is when a number is taken from it.
- `Double.isNaN_reciprocal`: the reciprocal of a positive double is always comparable, also where it
  is infinite; `isNaN_div_of_isNaN`: that of what is no number never is.
-/

namespace SuperChip.Double

open Float.Model UnpackedFloat

/-! ## Bits -/

section

variable {spec : Format}

theorem of_unpack_eq_notANumber {b : BitVec spec.numBits} (h : unpack spec b = .notANumber) :
    unpackExponent b = -1#_ ∧ unpackMantissa b ≠ 0#_ := by
  unfold UnpackedFloat.unpack at h
  by_cases hexponent : unpackExponent b = -1#_
  · by_cases hmantissa : unpackMantissa b = 0#_
    · rw [if_pos hexponent, if_pos hmantissa] at h
      cases h
    · exact ⟨hexponent, hmantissa⟩
  · rw [if_neg hexponent] at h
    by_cases hsubnormal : unpackExponent b = 0#_
    · rw [if_pos hsubnormal] at h
      by_cases hmantissa : unpackMantissa b = 0#_
      · rw [dif_pos hmantissa] at h
        cases h
      · rw [dif_neg hmantissa] at h
        cases h
    · rw [if_neg hsubnormal] at h
      cases h

/-- The bits that mark the infinities are not those of anything else but no number. -/
theorem unpackMantissa_pack {f : UnpackedFloat} (h : f ≠ .notANumber)
    (hexponent : unpackExponent (pack spec f) = -1#_) : unpackMantissa (pack spec f) = 0#_ := by
  revert hexponent
  fun_cases UnpackedFloat.pack with
  | case1 => exact absurd rfl h
  | case2 | case3 | case4 => exact fun _ => unpackMantissa_packComponents
  | case5 s m e hm bits exponent hfits hnormal =>
    -- the exponent of a finite float is below that of the infinities
    intro hexponent
    rw [unpackExponent_packComponents] at hexponent
    have hlast : exponent % 2 ^ spec.exponentBits = 2 ^ spec.exponentBits - 1 := by
      simpa [BitVec.neg_one_eq_allOnes, ← BitVec.toNat_inj] using hexponent
    rw [Nat.mod_eq_of_lt (by omega)] at hlast
    omega
  | case6 s m e hm bits exponent hfits hsubnormal =>
    intro hexponent
    rw [unpackExponent_packComponents] at hexponent
    simp [Nat.pos_iff_ne_zero.1 spec.he] at hexponent

/-- What is a number or an infinity stays one when it is packed into bits. -/
theorem unpack_pack_ne {f : UnpackedFloat} (h : f ≠ .notANumber) :
    unpack spec (pack spec f) ≠ .notANumber := by
  intro hnan
  obtain ⟨hexponent, hmantissa⟩ := of_unpack_eq_notANumber hnan
  exact hmantissa (unpackMantissa_pack h hexponent)

end

/-! ## What doubles stand for -/

/-- What a double stands for. -/
def form (x : Float) : UnpackedFloat := x.toModel.unpack

/-- The double above all numbers. -/
def infinity : Float := Float.ofBits 0x7FF0000000000000

variable {x y : Float}

/-- Zero stands for itself, with the positive sign. -/
theorem form_zero : form 0 = .zero .positive := rfl

/-- One is the smallest significand with fifty-two places behind the point. -/
theorem form_one : form 1.0 = .finite .positive 0x10000000000000 (-52) (by decide) := rfl

/-- The infinity is a form of its own. -/
theorem form_infinity : form infinity = .infinity .positive := rfl

/-- A quotient is that of the forms, rounded. -/
theorem form_div (x y : Float) :
    form (x / y) =
      unpack .binary64 (pack .binary64 (UnpackedFloat.div .binary64 (form x) (form y))) := rfl

/-- A double is no number if that is its form. -/
theorem isNaN_iff_form : x.isNaN = true ↔ form x = .notANumber := by
  show (form x).isNaN = true ↔ _
  cases form x with
  | notANumber => exact ⟨fun _ => rfl, fun _ => rfl⟩
  | _ =>
    constructor
    · intro h
      cases h
    · intro h
      cases h

theorem isFinite_iff_form :
    x.isFinite = true ↔ (∃ s, form x = .zero s) ∨ ∃ s m e hm, form x = .finite s m e hm := by
  show (form x).isFinite = true ↔ _
  cases form x with
  | finite s m e hm => exact ⟨fun _ => .inr ⟨s, m, e, hm, rfl⟩, fun _ => rfl⟩
  | zero s => exact ⟨fun _ => .inl ⟨s, rfl⟩, fun _ => rfl⟩
  | _ =>
    constructor
    · intro h
      cases h
    · rintro (⟨s, h⟩ | ⟨s, m, e, hm, h⟩)
      · cases h
      · cases h

/-- Doubles are compared by their forms. -/
theorem le_iff_form : x ≤ y ↔ ((form x).compare (form y)).any (·.isLE) = true := by
  show decide _ = true ↔ _
  rw [decide_eq_true_iff]
  exact Iff.rfl

theorem lt_iff_form : x < y ↔ (form x).compare (form y) = some .lt := by
  show decide _ = true ↔ _
  rw [decide_eq_true_iff]
  exact beq_iff_eq

/-! ## The order -/

/-- What is below is below or equal. -/
theorem le_of_lt (h : x < y) : x ≤ y := by
  rw [le_iff_form, lt_iff_form.1 h]
  rfl

/-- Nothing is at or above what is no number. -/
theorem not_le_of_isNaN (h : x.isNaN = true) (y : Float) : ¬ x ≤ y := by
  rw [le_iff_form, isNaN_iff_form.1 h]
  exact Bool.false_ne_true

theorem not_zero_lt_of_isNaN (h : x.isNaN = true) : ¬ 0 < x := by
  rw [lt_iff_form, isNaN_iff_form.1 h]
  exact nofun

/-- What is not zero or below is positive, or it is no number. -/
theorem not_le_zero_iff : ¬ x ≤ 0 ↔ 0 < x ∨ x.isNaN = true := by
  rw [le_iff_form, lt_iff_form, isNaN_iff_form, form_zero]
  cases form x with
  | notANumber => exact iff_of_true Bool.false_ne_true (.inr rfl)
  | zero s =>
    refine iff_of_false (not_not_intro (by cases s <;> rfl)) ?_
    rintro (h | h)
    · cases s <;> cases h
    · cases h
  | infinity s =>
    cases s with
    | positive => exact iff_of_true Bool.false_ne_true (.inl rfl)
    | negative =>
      refine iff_of_false (not_not_intro rfl) ?_
      rintro (h | h) <;> cases h
  | finite s m e hm =>
    cases s with
    | positive => exact iff_of_true Bool.false_ne_true (.inl rfl)
    | negative =>
      refine iff_of_false (not_not_intro rfl) ?_
      rintro (h | h) <;> cases h

/-- Nothing that is a number is above the infinity. -/
theorem le_infinity (h : x.isNaN = false) : x ≤ infinity := by
  have hform : form x ≠ .notANumber := fun hx => by
    rw [isNaN_iff_form.2 hx] at h
    cases h
  rw [le_iff_form, form_infinity]
  cases hx : form x with
  | notANumber => exact absurd hx hform
  | zero s => cases s <;> rfl
  | infinity s => cases s <;> rfl
  | finite s m e hm => cases s <;> rfl

/-- What is finite is below it. -/
theorem lt_infinity (h : x.isFinite = true) : x < infinity := by
  rw [lt_iff_form, form_infinity]
  obtain ⟨s, hx⟩ | ⟨s, m, e, hm, hx⟩ := isFinite_iff_form.1 h
  · rw [hx]
    cases s <;> rfl
  · rw [hx]
    cases s <;> rfl

/-! ## Differences and reciprocals -/

/-- What is taken from the greatest double is not missed. -/
theorem infinity_sub (h : x.isFinite = true) : infinity - x = infinity := by
  show Float.ofModel (.pack (UnpackedFloat.sub .binary64 (form infinity) (form x))) = infinity
  rw [form_infinity]
  obtain ⟨s, hx⟩ | ⟨s, m, e, hm, hx⟩ := isFinite_iff_form.1 h
  · rw [hx]
    rfl
  · rw [hx]
    rfl

/-- What is zero in one case and finite in the other is a number. -/
theorem dite_ne_notANumber {p : Prop} [Decidable p] {s : Sign} {m : Nat} {e : Int}
    {hm : ¬ p → 0 < m} :
    (if h : p then UnpackedFloat.zero s else .finite s m e (hm h)) ≠ .notANumber := by
  intro hnan
  by_cases h : p
  · rw [dif_pos h] at hnan
    cases hnan
  · rw [dif_neg h] at hnan
    cases hnan

/-- Rounding makes a number of what it is given. -/
theorem roundWithAccuracy_ne (spec : Format) (s : Sign) (m : Nat) (e : Int) (a : Accuracy) :
    roundWithAccuracy spec s m e a ≠ .notANumber := by
  unfold roundWithAccuracy
  exact dite_ne_notANumber

/-- The reciprocal of a positive double can be compared, also where it is infinite. -/
theorem isNaN_reciprocal (h : 0 < x) : (1.0 / x).isNaN = false := by
  have hdiv : UnpackedFloat.div .binary64 (form 1.0) (form x) ≠ .notANumber := by
    rw [form_one]
    cases hx : form x with
    | notANumber => exact absurd h (not_zero_lt_of_isNaN (isNaN_iff_form.2 hx))
    | zero s => exact nofun
    | infinity s => exact nofun
    | finite s m e hm => exact roundWithAccuracy_ne _ _ _ _ _
  refine Bool.eq_false_iff.2 fun hnan => ?_
  rw [isNaN_iff_form, form_div] at hnan
  exact unpack_pack_ne hdiv hnan

theorem isNaN_div_of_isNaN (h : x.isNaN = true) (y : Float) : (y / x).isNaN = true := by
  have hdiv : UnpackedFloat.div .binary64 (form y) .notANumber = .notANumber := by
    cases form y <;> rfl
  rw [isNaN_iff_form, form_div, isNaN_iff_form.1 h, hdiv]
  rfl

end SuperChip.Double
