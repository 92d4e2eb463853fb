import SuperChip.Double
import SuperChip.Invalid

/-!
# Palettes

- `Colour`: three channels of eight bits.
- `Palette`: the colours of dark and of lit pixels.
- `Palette.mono`, `Palette.phosphor`: the two palettes that can be asked for by name.
- `Level`, `Palette.ofColours?`: a palette from colours whose channels are any numbers.

Models `validate_palette`.
-/

namespace SuperChip

/-- A colour by its red, green and blue channels. -/
structure Colour where
  red : UInt8
  green : UInt8
  blue : UInt8
deriving DecidableEq, Repr

/-- The channels of a colour in order. -/
def Colour.channels (c : Colour) : List UInt8 := [c.red, c.green, c.blue]

/-- A number that is given for a channel. -/
inductive Level where
  | whole (n : Int)
  | real (x : Float)

/-- The low eight bits of the integer part of a number, if it has one. -/
def Level.toByte? : Level → Except Invalid UInt8
  | whole n => .ok (UInt8.ofInt n)
  | real x =>
    if Double.isNan x then .error .channelNotANumber
    else if Double.isInfinite x then .error .channelInfinite
    else .ok (UInt8.ofInt (Double.truncate x))

/-- The colours of dark and of lit pixels. -/
structure Palette where
  off : Colour
  on : Colour
deriving DecidableEq, Repr

namespace Palette

/-- White on black. -/
def mono : Palette := ⟨⟨0x00, 0x00, 0x00⟩, ⟨0xFF, 0xFF, 0xFF⟩⟩

/-- Green on a dark green. -/
def phosphor : Palette := ⟨⟨0x10, 0x18, 0x10⟩, ⟨0x40, 0xFF, 0x60⟩⟩

/-- The colour of a pixel. -/
def colour (p : Palette) (lit : Bool) : Colour := if lit then p.on else p.off

/-- The colour with the given channels, which have to be three. -/
def colour? : List Level → Except Invalid Colour
  | [red, green, blue] => do .ok ⟨← red.toByte?, ← green.toByte?, ← blue.toByte?⟩
  | _ => .error .paletteEntry

/-- The palette of two colours with three channels each. The channels are looked at once their
numbers are known to be right. -/
def ofColours? : List (List Level) → Except Invalid Palette
  | [off, on] =>
    if off.length = 3 ∧ on.length = 3 then do .ok ⟨← colour? off, ← colour? on⟩
    else .error .paletteEntry
  | _ => .error .paletteLength

end Palette

end SuperChip
