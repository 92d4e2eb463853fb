/-!
# Glyphs

Two tables of hexadecimal digits stand in the lowest part of memory: sixteen glyphs of five
rows from address `0x000` on, and sixteen glyphs of ten rows from `0x050` on.

- `Glyph.small`, `Glyph.large`: the tables, one byte per row of pixels.
- `Glyph.smallAddress`, `Glyph.largeAddress`: where the glyph of a digit starts.

Models `small_glyph_address` and `large_glyph_address`.
-/

namespace SuperChip.Glyph

/-- Where the table of small glyphs starts. -/
def smallBase : Nat := 0x000

/-- Where the table of large glyphs starts. -/
def largeBase : Nat := 0x050

/-- The small glyphs: four pixels wide, five rows each. -/
def small : List UInt8 :=
  [0xF0, 0x90, 0x90, 0x90, 0xF0,  -- 0
   0x20, 0x60, 0x20, 0x20, 0x70,  -- 1
   0xF0, 0x10, 0xF0, 0x80, 0xF0,  -- 2
   0xF0, 0x10, 0xF0, 0x10, 0xF0,  -- 3
   0x90, 0x90, 0xF0, 0x10, 0x10,  -- 4
   0xF0, 0x80, 0xF0, 0x10, 0xF0,  -- 5
   0xF0, 0x80, 0xF0, 0x90, 0xF0,  -- 6
   0xF0, 0x10, 0x20, 0x40, 0x40,  -- 7
   0xF0, 0x90, 0xF0, 0x90, 0xF0,  -- 8
   0xF0, 0x90, 0xF0, 0x10, 0xF0,  -- 9
   0xF0, 0x90, 0xF0, 0x90, 0x90,  -- A
   0xE0, 0x90, 0xE0, 0x90, 0xE0,  -- B
   0xF0, 0x80, 0x80, 0x80, 0xF0,  -- C
   0xE0, 0x90, 0x90, 0x90, 0xE0,  -- D
   0xF0, 0x80, 0xF0, 0x80, 0xF0,  -- E
   0xF0, 0x80, 0xF0, 0x80, 0x80]  -- F

/-- The large glyphs: eight pixels wide, ten rows each. -/
def large : List UInt8 :=
  [0xFF, 0xFF, 0xC3, 0xC3, 0xC3, 0xC3, 0xC3, 0xC3, 0xFF, 0xFF,  -- 0
   0x18, 0x78, 0x78, 0x18, 0x18, 0x18, 0x18, 0x18, 0xFF, 0xFF,  -- 1
   0xFF, 0xFF, 0x03, 0x03, 0xFF, 0xFF, 0xC0, 0xC0, 0xFF, 0xFF,  -- 2
   0xFF, 0xFF, 0x03, 0x03, 0xFF, 0xFF, 0x03, 0x03, 0xFF, 0xFF,  -- 3
   0xC3, 0xC3, 0xC3, 0xC3, 0xFF, 0xFF, 0x03, 0x03, 0x03, 0x03,  -- 4
   0xFF, 0xFF, 0xC0, 0xC0, 0xFF, 0xFF, 0x03, 0x03, 0xFF, 0xFF,  -- 5
   0xFF, 0xFF, 0xC0, 0xC0, 0xFF, 0xFF, 0xC3, 0xC3, 0xFF, 0xFF,  -- 6
   0xFF, 0xFF, 0x03, 0x03, 0x06, 0x0C, 0x18, 0x18, 0x18, 0x18,  -- 7
   0xFF, 0xFF, 0xC3, 0xC3, 0xFF, 0xFF, 0xC3, 0xC3, 0xFF, 0xFF,  -- 8
   0xFF, 0xFF, 0xC3, 0xC3, 0xFF, 0xFF, 0x03, 0x03, 0xFF, 0xFF,  -- 9
   0x7E, 0xFF, 0xC3, 0xC3, 0xC3, 0xFF, 0xFF, 0xC3, 0xC3, 0xC3,  -- A
   0xFC, 0xFC, 0xC3, 0xC3, 0xFC, 0xFC, 0xC3, 0xC3, 0xFC, 0xFC,  -- B
   0x3C, 0xFF, 0xC3, 0xC0, 0xC0, 0xC0, 0xC0, 0xC3, 0xFF, 0x3C,  -- C
   0xFC, 0xFE, 0xC3, 0xC3, 0xC3, 0xC3, 0xC3, 0xC3, 0xFE, 0xFC,  -- D
   0xFF, 0xFF, 0xC0, 0xC0, 0xFF, 0xFF, 0xC0, 0xC0, 0xFF, 0xFF,  -- E
   0xFF, 0xFF, 0xC0, 0xC0, 0xFF, 0xFF, 0xC0, 0xC0, 0xC0, 0xC0]  -- F

/-- Where the small glyph of `digit` starts. The whole byte counts, so that a value above 15
lands behind the table. -/
def smallAddress (digit : UInt8) : BitVec 12 := BitVec.ofNat 12 (smallBase + digit.toNat * 5)

/-- Where the large glyph of `digit` starts. Only the low four bits of the byte count. -/
def largeAddress (digit : UInt8) : BitVec 12 :=
  BitVec.ofNat 12 (largeBase + digit.toNat % 16 * 10)

/-- Sixteen glyphs of five rows. -/
theorem length_small : small.length = 80 := by decide +kernel

/-- Sixteen glyphs of ten rows. -/
theorem length_large : large.length = 160 := by decide +kernel

end SuperChip.Glyph
