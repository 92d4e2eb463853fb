import SuperChip.Screen

/-!
# Drawing sprites

A sprite is a list of rows of bits. Drawing turns over the pixels under its set bits and says
whether any of them was lit before.

- `Sprite`: the rows and how many of their low bits count.
- `Sprite.points`: the columns and rows of the set bits, in drawing order.
- `Screen.toggleAll`: turns over a list of pixels, one after the other.
- `Screen.draw`: draws a sprite with its upper left corner at a pixel.

Models `Framebuffer.xor_pixel` and `draw_sprite`.
-/

namespace SuperChip

/-- A picture to draw: rows of bits, the highest of `width` bits being the leftmost pixel.
Negative rows are read in two's complement. -/
structure Sprite where
  rows : List Int
  width : Nat
deriving DecidableEq, Repr

namespace Sprite

/-- Refuses a power of two that is too large. Thirty bits of a number are kept in four bytes,
of which a row can have no more than places can be counted. -/
def checkBit (room : Room) (exponent : Int) : Except Oversize Unit :=
  let words := exponent / 30 + 1
  if Extent.maxIndex - 24 < 4 * (if exponent % 30 = 0 then words else words + 1) then
    .error .digits
  else Extent.check room words 4

/-- A sprite of a requested width, which has to be positive and to have room for its highest
bit. -/
def ofRows? (room : Room) (rows : List Int) (width : Int) : Except Invalid Sprite :=
  if width ≤ 0 then .error .spriteWidth
  else ((checkBit room (width - 1)).mapError .oversize).map fun _ => ⟨rows, width.toNat⟩

/-- A sprite of eight pixels to a row, from a byte for each row. -/
def ofBytes (bytes : List UInt8) : Sprite := ⟨bytes.map fun b => (b.toNat : Int), 8⟩

/-- The words that pairs of bytes make, the first byte of a pair being the higher half. -/
def wordRows : List UInt8 → List Int
  | high :: low :: rest => ((high.toNat * 256 + low.toNat : Nat) : Int) :: wordRows rest
  | _ => []

/-- A sprite of sixteen pixels to a row, from two bytes for each row. -/
def ofBytePairs (bytes : List UInt8) : Sprite := ⟨wordRows bytes, 16⟩

/-- Whether the pixel in column `column` of a row of `width` bits is set. -/
def bit (width : Nat) (row : Int) (column : Nat) : Bool :=
  (row >>> (width - 1 - column)) % 2 == 1

/-- The columns of the set bits of a row, from the left. -/
def columns (width : Nat) (row : Int) : List Nat := (List.range width).filter (bit width row)

/-- The set bits as pairs of a column and a row, row after row and each from the left. -/
def points (sprite : Sprite) : List (Nat × Nat) :=
  sprite.rows.zipIdx.flatMap fun (row, y) =>
    (columns sprite.width row).map fun x => (x, y)

end Sprite

namespace Screen

/-- Turns over one pixel, and notes whether it was lit. -/
def touch (drawn : Screen × Bool) (point : Int × Int) : Screen × Bool :=
  let (s, hit) := drawn
  let lit := s.get point.1 point.2
  (s.set point.1 point.2 (!lit), hit || lit)

/-- Turns over the listed pixels one after the other, and says whether one was lit when its
turn came. -/
def toggleAll (s : Screen) (points : List (Int × Int)) : Screen × Bool :=
  points.foldl touch (s, false)

/-- Draws a sprite with its upper left corner at column `x` and row `y`, and says whether it
met a lit pixel. -/
def draw (s : Screen) (sprite : Sprite) (x y : Int) : Screen × Bool :=
  s.toggleAll (sprite.points.map fun (dx, dy) => (x + dx, y + dy))

/-- Drawing does not change the size of a screen. -/
theorem size_toggleAll (s : Screen) (points : List (Int × Int)) :
    (s.toggleAll points).1.width = s.width ∧ (s.toggleAll points).1.height = s.height := by
  suffices h : ∀ drawn : Screen × Bool, (points.foldl touch drawn).1.width = drawn.1.width ∧
      (points.foldl touch drawn).1.height = drawn.1.height from h (s, false)
  induction points with
  | nil => exact fun _ => ⟨rfl, rfl⟩
  | cons p rest ih => exact fun drawn => ih (touch drawn p)

end Screen

end SuperChip
