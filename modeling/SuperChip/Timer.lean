import SuperChip.Invalid

/-!
# Countdown timers

A timer is a byte that counts down to zero. Whenever it is asked to tick it looks at the
clock, and counts at most once per period however often it is asked.

- `Timer τ`: a timer whose clock shows values of `τ`; machines use floating-point seconds.
- `Timer.tick`: looks at a clock reading and counts if a period has passed.
- `Timer.ofRate?`: a timer that is given by its frequency.
- `Timers`: the delay timer and the sound timer of a machine, which share a period.

Models `CountdownTimer.tick`, `set`, `reset` and `period`, and `TimerPair`.
-/

namespace SuperChip

/-- A countdown timer. -/
structure Timer (τ : Type) where
  /-- The time that has to pass between two counts. -/
  period : τ
  /-- The clock reading of the last count, or of the start. -/
  lastFire : τ
  /-- Whether the last tick found that a period had passed. -/
  fired : Bool
  value : UInt8
deriving Repr

namespace Timer

variable {τ : Type}

/-- A timer that starts at a clock reading. -/
def start (period now : τ) (value : UInt8) : Timer τ := ⟨period, now, false, value⟩

/-- Sets the count. The clock and the period go on as they were. -/
def set (t : Timer τ) (value : UInt8) : Timer τ := { t with value := value }

/-- Starts again from zero at a clock reading. -/
def reset (t : Timer τ) (now : τ) : Timer τ := start t.period now 0

/-- The count after one more. Zero stays zero. -/
def countDown (value : UInt8) : UInt8 := if value = 0 then 0 else value - 1

/-- Whether a period has passed at a clock reading since the last count. -/
def due [Sub τ] [LE τ] [DecidableLE τ] (t : Timer τ) (now : τ) : Bool :=
  decide (t.period ≤ now - t.lastFire)

/-- Looks at a clock reading, and counts if a period has passed. -/
def tick [Sub τ] [LE τ] [DecidableLE τ] (t : Timer τ) (now : τ) : Timer τ :=
  if t.due now then { t with lastFire := now, fired := true, value := countDown t.value }
  else { t with fired := false }

/-- The count that a tick leaves, if the tick changes it. -/
def counted? [Sub τ] [LE τ] [DecidableLE τ] (t : Timer τ) (now : τ) : Option UInt8 :=
  if t.due now && t.value != 0 then some (t.value - 1) else none

/-- The period of a frequency in Hertz, which must not be zero or below. -/
def periodOfRate? (hz : Float) : Except Invalid Float :=
  if hz ≤ 0 then .error .timerRate else .ok (1.0 / hz)

/-- A timer of a frequency in Hertz that starts at a clock reading. -/
def ofRate? (hz now : Float) (value : UInt8) : Except Invalid (Timer Float) :=
  match periodOfRate? hz with
  | .error e => .error e
  | .ok period => .ok (start period now value)

theorem toNat_countDown (value : UInt8) : (countDown value).toNat = value.toNat - 1 := by
  unfold countDown
  split
  · simp_all
  · next h =>
    have h₁ : value.toNat ≠ 0 := fun e => h (UInt8.toNat_inj.1 (by simpa using e))
    rw [UInt8.toNat_sub_of_le _ _ (by rw [UInt8.le_iff_toNat_le]; simp; omega)]
    simp

end Timer

/-- The two timers of a machine. -/
structure Timers (τ : Type) where
  delay : Timer τ
  sound : Timer τ
deriving Repr

namespace Timers

variable {τ : Type}

/-- Two timers of one frequency in Hertz that start at a clock reading. -/
def ofRate? (hz now : Float) : Except Invalid (Timers Float) :=
  match Timer.ofRate? hz now 0 with
  | .error e => .error e
  | .ok t => .ok ⟨t, t⟩

/-- Both timers tick at one clock reading. -/
def tick [Sub τ] [LE τ] [DecidableLE τ] (t : Timers τ) (now : τ) : Timers τ :=
  ⟨t.delay.tick now, t.sound.tick now⟩

/-- Both timers tick, each at a clock reading of its own. -/
def tickAt [Sub τ] [LE τ] [DecidableLE τ] (t : Timers τ) (delay sound : τ) : Timers τ :=
  ⟨t.delay.tick delay, t.sound.tick sound⟩

/-- Both timers start again from zero. -/
def reset (t : Timers τ) (now : τ) : Timers τ := ⟨t.delay.reset now, t.sound.reset now⟩

/-- Both timers start again from zero, each at a clock reading of its own. -/
def resetAt (t : Timers τ) (delay sound : τ) : Timers τ :=
  ⟨t.delay.reset delay, t.sound.reset sound⟩

/-- The tone sounds as long as the sound timer is above zero. -/
def soundActive (t : Timers τ) : Bool := t.sound.value != 0

/-- The frequency of the timers when none is asked for. -/
def defaultRate : Float := 60.0

end Timers

end SuperChip
