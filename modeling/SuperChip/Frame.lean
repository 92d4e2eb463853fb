import SuperChip.Invalid
import SuperChip.Palette
import SuperChip.Screen

/-!
# Frames

A frame is a picture in colours in which every pixel of a grid is a square.

- `Frame`: its size and its pixels, row after row.
- `Frame.ofRows`, `Frame.ofRows?`: the frame of a grid of numbers, of which zero is dark.
- `Frame.ofScreen`, `Frame.fitted`: the frame of a screen, and the one that fits a window.
- `Frame.pixel?`, `Frame.bytes`: one pixel, and all of them as bytes.

Models `Renderer.render`, `RenderResult.get_pixel` and `to_bytes`.
-/

namespace SuperChip

/-- A picture in colours. -/
structure Frame where
  width : Nat
  height : Nat
  /-- The pixels, row after row. -/
  pixels : Array Colour
deriving DecidableEq, Repr

namespace Frame

/-- A row of a grid in which every pixel is `scale` pixels wide. -/
def widened (p : Palette) (row : List Int) (scale : Nat) : List Colour :=
  row.flatMap fun v => List.replicate scale (p.colour (v != 0))

/-- The rows of a frame that show one row of a grid. -/
def squares (p : Palette) (row : List Int) (scale : Nat) : List Colour :=
  let line := widened p row scale
  (List.replicate scale line).flatten

/-- The frame of a grid in which every number becomes a square. The first row says how wide
the grid is. -/
def ofRows (p : Palette) (rows : List (List Int)) (scale : Nat) : Frame where
  width := (rows.headD []).length * scale
  height := rows.length * scale
  pixels := (rows.flatMap fun row => squares p row scale).toArray

/-- The number of pixels in the squares of a grid. -/
def area (rows : List (List Int)) (scale : Int) : Int := rows.flatten.length * scale * scale

/-- Refuses a scale at which a square has more columns than can be counted, or at which there is
no room for the pixels of all squares. A grid without numbers has no squares. -/
def checkScale (room : Room) (rows : List (List Int)) (scale : Int) : Except Invalid Unit :=
  if rows.all List.isEmpty then .ok ()
  else if Extent.maxIndex < scale then .error (.oversize .uncountable)
  else if room.bytes < area rows scale * Extent.reference then .error (.oversize .noRoom)
  else .ok ()

/-- The frame of a grid at a requested scale, which has to be positive and to have room. -/
def ofRows? (room : Room) (p : Palette) (rows : List (List Int)) (scale : Int) :
    Except Invalid Frame :=
  if scale ≤ 0 then .error .frameScale
  else (checkScale room rows scale).map fun _ => ofRows p rows scale.toNat

/-- The rows of a screen as numbers, one for a lit pixel. -/
def numbers (s : Screen) : List (List Int) := s.rows.map fun row => row.map fun lit => lit.toInt

/-- The frame of a screen. -/
def ofScreen (p : Palette) (s : Screen) (scale : Nat) : Frame := ofRows p (numbers s) scale

/-- The scale at which a screen is shown in a window of a width: as large as fits, but never
below one. -/
def fittingScale (s : Screen) (windowWidth : Int) : Int := max 1 (windowWidth / s.width)

/-- The frame of a screen in a window of a width. -/
def fitted (p : Palette) (s : Screen) (windowWidth : Int) : Frame :=
  ofScreen p s (fittingScale s windowWidth).toNat

/-- The frame of a screen in a window of a width, if there is room for it. -/
def fitted? (room : Room) (p : Palette) (s : Screen) (windowWidth : Int) : Except Invalid Frame :=
  ofRows? room p (numbers s) (fittingScale s windowWidth)

/-- The pixel at column `x` and row `y`, by its place in the row of all pixels. A place before
the first pixel is counted from the end. -/
def pixel? (f : Frame) (x y : Int) : Except Misplaced Colour :=
  let place := y * f.width + x
  let k := if place < 0 then place + f.pixels.size else place
  if h : 0 ≤ k ∧ k < f.pixels.size then
    have hk : k.toNat < f.pixels.size := by omega
    .ok f.pixels[k.toNat]
  else .error (Extent.misplaced place)

/-- The channels of all pixels in order. -/
def bytes (f : Frame) : Array UInt8 := f.pixels.flatMap fun c => #[c.red, c.green, c.blue]

end Frame

end SuperChip
