import SuperChip.Extent

/-!
# Refused arguments

A component refuses an argument that it cannot work with before anything happens. `Invalid`
lists the reasons and `Invalid.message` words them.
-/

namespace SuperChip

/-- Why an argument was refused. -/
inductive Invalid where
  /-- A memory needs at least one cell. -/
  | memorySize
  /-- A screen needs at least one row and one column. -/
  | screenSize
  /-- A sprite needs at least one column. -/
  | spriteWidth
  /-- A timer cannot run at a frequency that is zero or below. -/
  | timerRate
  /-- A cycle of bytes needs at least one byte. -/
  | emptyCycle
  /-- A trace needs room for at least one entry. -/
  | traceCapacity
  /-- The keypad has the keys 0 to 15 only. -/
  | keyIndex (key : Int)
  /-- A palette has one colour for dark pixels and one for lit ones. -/
  | paletteLength
  /-- A colour has three channels. -/
  | paletteEntry
  /-- A frame shows every pixel at least once. -/
  | frameScale
  /-- A session executes at least one instruction per frame. -/
  | cyclesPerFrame
  /-- A tone cannot have a frequency that is zero or below. -/
  | toneFrequency
  /-- A channel of a colour is a number. -/
  | channelNotANumber
  /-- A channel of a colour has an end. -/
  | channelInfinite
  /-- There is no room for what was asked for. -/
  | oversize (cause : Oversize)
deriving DecidableEq, Repr

/-- The wording of a refusal. -/
def Invalid.message : Invalid → String
  | .memorySize => "memory size must be positive"
  | .screenSize => "framebuffer dimensions must be positive"
  | .spriteWidth => "negative shift count"
  | .timerRate => "timer frequency must be positive"
  | .emptyCycle => "at least one value is required"
  | .traceCapacity => "capacity must be positive"
  | .keyIndex key => s!"keypad key out of range: {key}"
  | .paletteLength => "palette needs exactly two colours (pixel off, pixel on)"
  | .paletteEntry => "palette entries must be RGB tuples"
  | .frameScale => "scale must be positive"
  | .cyclesPerFrame => "cycles_per_frame must be positive"
  | .toneFrequency => "frequency must be positive"
  | .channelNotANumber => "cannot convert float NaN to integer"
  | .channelInfinite => "cannot convert float infinity to integer"
  | .oversize cause => cause.message

/-- Refuses a row of `length` entries that take `bytes` bytes each, if it is too long. -/
def Invalid.checkRoom (room : Room) (length bytes : Int) : Except Invalid Unit :=
  (Extent.check room length bytes).mapError .oversize

end SuperChip
