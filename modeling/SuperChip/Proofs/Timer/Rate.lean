import SuperChip.Launch
import SuperChip.Proofs.Double.Order

/-!
# Frequencies that are accepted

The command line and the timers refuse a frequency that is zero or below. All others are accepted,
and among these is also what is no number at all, since it is not below anything.

- `Timer.ofRate?_eq_ok_iff`, `Launch.of_check`: what a timer accepts, and what the command line lets
  through.
- `Timer.CanFire`: a period after which a timer can always fire once more; `canFire_of_pos`: the
  period of a positive frequency, however large or small, is one.
- `Timer.NeverFires`: a period after which no timer fires; `neverFires_of_isNaN`: that of no number.
- `Timer.accepted_rate_works_if_number`: **an accepted frequency is a working one unless it is no
  number, and then it is never one**.

About `CountdownTimer.period` and the check of the frequency.
-/

namespace SuperChip

open Double

/-- A command line that is accepted has a frequency that is not zero or below. -/
theorem Launch.of_check {o : Options} {files : Files} {hz : Float} (h : check o files = .ok ())
    (hrate : o.timerRate = .value hz) : ¬ hz ≤ 0 := by
  intro hle
  unfold check at h
  split at h
  · cases h
  · cases h
  · have hrefused : positive .timerRate o.timerRate =
        .error (misused (.notPositive .timerRate)) := by
      rw [hrate]
      exact if_pos hle
    -- the frequency is looked at last
    cases hscale : positive .scale o.scale with
    | error e => simp [hscale, bind, Except.bind] at h
    | ok u =>
    cases hcycles : positive .cyclesPerFrame o.cyclesPerFrame with
    | error e => simp [hscale, hcycles, bind, Except.bind] at h
    | ok u => simp [hscale, hcycles, hrefused, bind, Except.bind] at h

namespace Timer

variable {hz now : Float} {value : UInt8} {t : Timer Float}

/-- A timer accepts every frequency but those that are zero or below. -/
theorem ofRate?_eq_ok_iff :
    ofRate? hz now value = .ok t ↔ ¬ hz ≤ 0 ∧ t = start (1.0 / hz) now value := by
  unfold ofRate? periodOfRate?
  by_cases h : hz ≤ 0
  · rw [if_pos h]
    simp [h]
  · rw [if_neg h]
    simp [h, eq_comm]

/-- Whenever a timer of this period fired last, a later clock reading makes it fire again and count
down by one. The reading may be infinite. -/
def CanFire (period : Float) : Prop :=
  ∀ t : Timer Float, t.period = period → t.lastFire.isFinite = true →
    ∃ later, t.lastFire < later ∧ (t.tick later).fired = true ∧
      (t.value ≠ 0 → (t.tick later).value = t.value - 1)

/-- No clock reading makes a timer of this period fire or count. -/
def NeverFires (period : Float) : Prop :=
  ∀ t : Timer Float, t.period = period → ∀ now,
    (t.tick now).fired = false ∧ (t.tick now).value = t.value

theorem due_iff_le (now : Float) : t.due now = true ↔ t.period ≤ now - t.lastFire :=
  decide_eq_true_iff

/-- A period that can be compared has passed at the end of time. -/
theorem canFire_of_comparable {period : Float} (h : period.isNaN = false) : CanFire period := by
  intro t hperiod hfinite
  have hdue : t.due infinity = true := by
    rw [due_iff_le, hperiod, infinity_sub hfinite]
    exact le_infinity h
  refine ⟨infinity, lt_infinity hfinite, ?_, fun hvalue => ?_⟩
  · rw [tick, if_pos hdue]
  · rw [tick, if_pos hdue]
    exact if_neg hvalue

theorem canFire_of_pos (h : 0 < hz) : CanFire (1.0 / hz) :=
  canFire_of_comparable (isNaN_reciprocal h)

theorem neverFires_of_isNaN (h : hz.isNaN = true) : NeverFires (1.0 / hz) := by
  intro t hperiod now
  have hdue : ¬ t.due now = true := by
    rw [due_iff_le, hperiod]
    exact not_le_of_isNaN (isNaN_div_of_isNaN h 1.0) _
  rw [tick, if_neg hdue]
  exact ⟨rfl, rfl⟩

/-- **An accepted frequency is a working one unless it is no number.** Then it is not positive, and
its timer never fires. -/
theorem accepted_rate_works_if_number {o : Options} {files : Files}
    (hrate : o.timerRate = .value hz) (hcheck : Launch.check o files = .ok ())
    (hmade : ofRate? hz now value = .ok t) :
    (hz.isNaN = false → 0 < hz ∧ CanFire t.period) ∧
      (hz.isNaN = true → ¬ 0 < hz ∧ NeverFires t.period) := by
  obtain ⟨-, rfl⟩ := ofRate?_eq_ok_iff.1 hmade
  have hpos := not_le_zero_iff.1 (Launch.of_check hcheck hrate)
  constructor
  · intro hnumber
    have h : 0 < hz := hpos.resolve_right fun hnan => by
      rw [hnumber] at hnan
      cases hnan
    exact ⟨h, canFire_of_pos h⟩
  · intro hnan
    exact ⟨not_zero_lt_of_isNaN hnan, neverFires_of_isNaN hnan⟩

/-- A command line that names a program file and a frequency. -/
def sampleOptions (hz : Float) : Options :=
  { Options.ofRom ⟨"", ["a"]⟩ with timerRate := .value hz }

/-- The file that it names. -/
def sampleFiles : Files := ⟨[(["a"], .file [0x12, 0x00])]⟩

theorem check_sampleOptions {hz : Float} (h : ¬ hz ≤ 0) :
    Launch.check (sampleOptions hz) sampleFiles = .ok () := by
  have hrom : (sampleOptions hz).rom = ⟨"", ["a"]⟩ := rfl
  have hfound : sampleFiles.contains ⟨"", ["a"]⟩ = .ok true := by rfl
  have hscale : Launch.positive .scale (sampleOptions hz).scale = .ok () := rfl
  have hcycles : Launch.positive .cyclesPerFrame (sampleOptions hz).cyclesPerFrame = .ok () := rfl
  have hrate : Launch.positive .timerRate (sampleOptions hz).timerRate = .ok () := if_neg h
  unfold Launch.check
  simp only [hrom, hfound, hscale, hcycles, hrate, bind, Except.bind]

/-- At the smallest of all frequencies the period is infinite, and still the timer can fire. -/
theorem accepted_rate_works_of_smallest :
    let hz : Float := Float.ofBits 1
    Launch.check (sampleOptions hz) sampleFiles = .ok () ∧
      ofRate? hz 0 5 = .ok (start (1.0 / hz) 0 5) ∧ 1.0 / hz = infinity ∧
      0 < hz ∧ CanFire (1.0 / hz) := by
  intro hz
  have hpos : ¬ hz ≤ 0 := by decide
  have hcheck := check_sampleOptions hpos
  have hmade : ofRate? hz 0 5 = .ok (start (1.0 / hz) 0 5) := ofRate?_eq_ok_iff.2 ⟨hpos, rfl⟩
  have hperiod : 1.0 / hz = infinity := by decide
  exact ⟨hcheck, hmade, hperiod, (accepted_rate_works_if_number rfl hcheck hmade).1 (by decide)⟩

/-- The path of the file that is named. -/
theorem ofText_sampleRom : Path.ofText "a" = ⟨"", ["a"]⟩ := by
  -- the text ends before a slash is found in it
  have hparts : "a".splitOn "/" = ["a"] := by
    rw [String.splitOn, if_neg (by decide), String.splitOnAux, if_neg (by decide),
      if_neg (by decide), String.splitOnAux, if_pos (by decide)]
    rfl
  rw [Path.ofText, hparts]
  rfl

/-- What is no number is let through and accepted as a frequency, and its timer never fires. -/
theorem no_number_is_accepted :
    let hz : Float := 0.0 / 0.0
    Options.parse ["a", "--timer-hz", "nan"] = .ok (sampleOptions hz) ∧
      Launch.check (sampleOptions hz) sampleFiles = .ok () ∧
      ofRate? hz 0 5 = .ok (start (1.0 / hz) 0 5) ∧ ¬ 0 < hz ∧
      ∀ now, ((start (1.0 / hz) 0 5).tick now).fired = false := by
  intro hz
  have hparse : Options.parse ["a", "--timer-hz", "nan"] =
      .ok { Options.ofRom (.ofText "a") with timerRate := .value hz } := rfl
  rw [ofText_sampleRom] at hparse
  have hnan : hz.isNaN = true := by decide
  have haccepted : ¬ hz ≤ 0 := not_le_of_isNaN hnan 0
  exact ⟨hparse, check_sampleOptions haccepted, ofRate?_eq_ok_iff.2 ⟨haccepted, rfl⟩,
    not_zero_lt_of_isNaN hnan, fun now => (neverFires_of_isNaN hnan _ rfl now).1⟩

end Timer

end SuperChip
