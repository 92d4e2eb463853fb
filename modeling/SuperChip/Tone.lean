import SuperChip.Double
import SuperChip.Invalid

/-!
# Tones

The tone is a square wave: one period of samples that is played in a loop.

- `Tone.period?`: the number of samples in a period.
- `Tone.samples?`: the samples of a period, the high half first.
- `Tone.bytes`: samples as they are handed to an audio device.

Models `build_square_wave`.
-/

namespace SuperChip.Tone

/-- Why there is no wave of a frequency, a sample rate and an amplitude. -/
inductive Error where
  /-- A frequency of zero has no period. -/
  | divisionByZero
  /-- The sample rate is beyond all doubles. -/
  | rateTooLarge
  /-- The period is no number. -/
  | notANumber
  /-- The period has no end. -/
  | infinite
  /-- A sample is above 32767. -/
  | sampleTooHigh
  /-- A sample is below -32768. -/
  | sampleTooLow
  /-- A sample is no signed word of 64 bits. -/
  | sampleTooLong
  /-- There is no room for the samples. -/
  | oversize (cause : Oversize)
deriving DecidableEq, Repr

/-- The wording of an error. -/
def Error.message : Error → String
  | divisionByZero => "float division by zero"
  | rateTooLarge => "int too large to convert to float"
  | notANumber => "cannot convert float NaN to integer"
  | infinite => "cannot convert float infinity to integer"
  | sampleTooHigh => "signed short integer is greater than maximum"
  | sampleTooLow => "signed short integer is less than minimum"
  | sampleTooLong => "Python int too large to convert to C long"
  | oversize cause => cause.message

/-- The nearest integer to a double that is a number and has an end. -/
def nearest? (x : Float) : Except Error Int :=
  if Double.isNan x then .error .notANumber
  else if Double.isInfinite x then .error .infinite
  else .ok (Double.round x)

/-- The number of samples in a period, at least two: the nearest integer to the sample rate over
the frequency. -/
def period? (frequency : Float) (rate : Int) : Except Error Nat := do
  let rate := Float.ofInt rate
  if Double.isInfinite rate then .error .rateTooLarge
  else if frequency == 0.0 then .error .divisionByZero
  else
    let n ← nearest? (rate / frequency)
    .ok (max 2 n).toNat

/-- A number as a sample of sixteen bits. -/
def sample? (n : Int) : Except Error Int16 :=
  if !Extent.isIndex n then .error .sampleTooLong
  else if n < -32768 then .error .sampleTooLow
  else if 32767 < n then .error .sampleTooHigh
  else .ok (Int16.ofInt n)

/-- The samples of a period: the amplitude for the first half of it, rounded down, and its
negative for the rest. -/
def samples? (room : Room) (frequency : Float) (rate amplitude : Int) :
    Except Error (List Int16) := do
  let period ← period? frequency rate
  (Extent.check room (period / 2 : Nat) Extent.reference).mapError .oversize
  let high ← sample? amplitude
  let low ← sample? (-amplitude)
  .ok (List.replicate (period / 2) high ++ List.replicate (period - period / 2) low)

/-- The amplitude when none is asked for. -/
def defaultAmplitude : Int := 8000

/-- The two bytes of a sample, the lower half first. -/
def sampleBytes (s : Int16) : List UInt8 :=
  let n := s.toUInt16.toNat
  [UInt8.ofNat n, UInt8.ofNat (n / 256)]

/-- Samples as they are handed to an audio device. -/
def bytes (samples : List Int16) : List UInt8 := samples.flatMap sampleBytes

end SuperChip.Tone
