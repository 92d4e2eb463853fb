import SuperChip.Invalid

/-!
# The screen

A screen is a grid of pixels that are lit or dark. It has no edges: columns and rows are
counted modulo its width and height, so every pair of integers names a pixel.

- `Screen`: the grid, stored row after row; `Screen.low` and `Screen.high` are the two
  resolutions of a machine.
- `Screen.get`, `Screen.set`, `Screen.toggle`: one pixel.
- `Screen.repaint`: a whole new picture of the same size.
- `Screen.line`, `Screen.mapLines`: one row of pixels, and every row made anew.
- `Screen.scrollDown`, `scrollRight`, `scrollLeft`: moved pictures; what leaves is lost and
  what enters is dark.
- `Screen.rows`, `Screen.litCount`: what a host sees.

Models `Framebuffer` where there is room: `clear`, `set_pixel`, `get_pixel`, `scroll_down`,
`scroll_right`, `scroll_left`, `lit_count` and `snapshot`.
-/

namespace SuperChip

/-- A grid of pixels, each lit (`true`) or dark. -/
structure Screen where
  width : Nat
  height : Nat
  width_pos : 0 < width
  height_pos : 0 < height
  /-- The pixels, row after row from the top, each row from the left. -/
  pixels : Vector Bool (width * height)

namespace Screen

/-- A column and a row inside the grid name a pixel of it. -/
theorem index_lt {a b w h : Nat} (ha : a < w) (hb : b < h) : b * w + a < w * h :=
  calc
    b * w + a < b * w + w := Nat.add_lt_add_left ha _
    _ = (b + 1) * w := (Nat.succ_mul b w).symm
    _ ≤ h * w := Nat.mul_le_mul_right w hb
    _ = w * h := Nat.mul_comm h w

/-- The row that a pixel stands in. -/
theorem index_div {a b w : Nat} (ha : a < w) : (b * w + a) / w = b := by
  rw [Nat.mul_comm, Nat.mul_add_div (Nat.zero_lt_of_lt ha), Nat.div_eq_of_lt ha, Nat.add_zero]

/-- The column that a pixel stands in. -/
theorem index_mod {a b w : Nat} (ha : a < w) : (b * w + a) % w = a := by
  rw [Nat.mul_add_mod_self_right, Nat.mod_eq_of_lt ha]

/-- The column of the grid that an integer names. -/
def column (s : Screen) (x : Int) : Fin s.width :=
  ⟨(x % s.width).toNat, by
    have := Int.emod_lt_of_pos x (Int.natCast_pos.2 s.width_pos)
    have := Int.emod_nonneg x (Int.ne_of_gt (Int.natCast_pos.2 s.width_pos))
    omega⟩

/-- The row of the grid that an integer names. -/
def row (s : Screen) (y : Int) : Fin s.height :=
  ⟨(y % s.height).toNat, by
    have := Int.emod_lt_of_pos y (Int.natCast_pos.2 s.height_pos)
    have := Int.emod_nonneg y (Int.ne_of_gt (Int.natCast_pos.2 s.height_pos))
    omega⟩

/-- Where the pixel at column `x` and row `y` is stored. -/
def cell (s : Screen) (x y : Int) : Fin (s.width * s.height) :=
  ⟨(s.row y).val * s.width + (s.column x).val, index_lt (s.column x).isLt (s.row y).isLt⟩

/-- Whether the pixel at column `x` and row `y` is lit. -/
def get (s : Screen) (x y : Int) : Bool := s.pixels[(s.cell x y).val]

/-- Lights or darkens one pixel. -/
def set (s : Screen) (x y : Int) (lit : Bool) : Screen :=
  { s with pixels := s.pixels.set (s.cell x y).val lit (s.cell x y).isLt }

/-- Turns one pixel over. -/
def toggle (s : Screen) (x y : Int) : Screen := s.set x y (!s.get x y)

/-- A picture of the same size whose pixel at column `x` and row `y` is `lit x y`. -/
def repaint (s : Screen) (lit : Nat → Nat → Bool) : Screen :=
  { s with pixels := Vector.ofFn fun k => lit (k.val % s.width) (k.val / s.width) }

/-- A dark screen of a size that has a pixel. -/
def dark (width height : Nat) (width_pos : 0 < width) (height_pos : 0 < height) : Screen :=
  ⟨width, height, width_pos, height_pos, Vector.replicate _ false⟩

/-- A dark screen of a requested size, which has to be positive and to have room. -/
def ofSize? (room : Room) (width height : Int) : Except Invalid Screen :=
  if h : 0 < width ∧ 0 < height then
    (Invalid.checkRoom room (width * height) 1).map fun _ =>
      dark width.toNat height.toNat (by omega) (by omega)
  else .error .screenSize

/-- A dark screen of 64 by 32 pixels. -/
def low : Screen := dark 64 32 (by decide) (by decide)

/-- There is always room for a screen of the low resolution. -/
theorem ofSize?_low (room : Room) : ofSize? room 64 32 = .ok low := by
  have hleast := room.least
  have hcheck : Extent.check room (64 * 32) 1 = .ok () :=
    (Extent.check_eq_ok_iff (by decide)).2 (by omega)
  rw [ofSize?, dif_pos (by decide), Invalid.checkRoom, hcheck]
  rfl

/-- A dark screen of 128 by 64 pixels. -/
def high : Screen := dark 128 64 (by decide) (by decide)

/-- Whether a screen has the size of the high resolution. -/
def isHigh (s : Screen) : Bool := s.width == 128 && s.height == 64

/-- The same screen, all dark. -/
def clear (s : Screen) : Screen := s.repaint fun _ _ => false

/-! ## Scrolling -/

/-- A row of pixels, from the left. -/
def line (s : Screen) (y : Fin s.height) : Vector Bool s.width :=
  (s.pixels.extract (y.val * s.width) (y.val * s.width + s.width)).cast (by
    have hlast : y.val * s.width + s.width ≤ s.width * s.height := by
      rw [← Nat.succ_mul, Nat.mul_comm s.width]
      exact Nat.mul_le_mul_right s.width y.isLt
    omega)

/-- A picture of the same size, each row of which is made from the old one. -/
def mapLines (s : Screen) (move : Vector Bool s.width → Vector Bool s.width) : Screen :=
  { s with
    pixels := (Vector.ofFn fun y => move (s.line y)).flatten.cast (Nat.mul_comm s.height s.width) }

/-- Moves the picture down. A negative distance is none. -/
def scrollDown (s : Screen) (distance : Int) : Screen :=
  let entering := min distance.toNat s.height * s.width
  { s with
    pixels :=
      (Vector.replicate entering false ++
        s.pixels.extract 0 (s.width * s.height - entering)).cast (by
          have hall : entering ≤ s.width * s.height := by
            rw [Nat.mul_comm s.width]
            exact Nat.mul_le_mul_right s.width (Nat.min_le_right _ _)
          omega) }

/-- Moves the picture right, row by row. A negative distance is none. -/
def scrollRight (s : Screen) (distance : Int) : Screen :=
  let entering := min distance.toNat s.width
  s.mapLines fun line =>
    (Vector.replicate entering false ++ line.extract 0 (s.width - entering)).cast (by omega)

/-- Moves the picture left, row by row. A negative distance is none. -/
def scrollLeft (s : Screen) (distance : Int) : Screen :=
  let entering := min distance.toNat s.width
  s.mapLines fun line =>
    (line.extract entering s.width ++ Vector.replicate entering false).cast (by omega)

/-! ## Views -/

/-- The rows of pixels from the top, each from the left. -/
def rows (s : Screen) : List (List Bool) :=
  (List.range s.height).map fun (y : Nat) =>
    (List.range s.width).map fun (x : Nat) => s.get x y

/-- The number of lit pixels. -/
def litCount (s : Screen) : Nat := s.pixels.count true

/-! ## What the operations do to a pixel -/

/-- Two pairs of integers name one pixel exactly if they agree modulo the size. -/
theorem cell_eq_iff (s : Screen) {x y x' y' : Int} :
    s.cell x y = s.cell x' y' ↔ s.column x = s.column x' ∧ s.row y = s.row y' := by
  constructor
  · intro h
    have hv : (s.row y).val * s.width + (s.column x).val
        = (s.row y').val * s.width + (s.column x').val := congrArg Fin.val h
    have hx := congrArg (· % s.width) hv
    have hy := congrArg (· / s.width) hv
    simp only [index_mod (s.column _).isLt] at hx
    simp only [index_div (s.column _).isLt] at hy
    exact ⟨Fin.ext hx, Fin.ext hy⟩
  · rintro ⟨hx, hy⟩
    simp only [cell, hx, hy]

theorem get_set (s : Screen) (x y x' y' : Int) (lit : Bool) :
    (s.set x y lit).get x' y' = if s.cell x y = s.cell x' y' then lit else s.get x' y' := by
  have h : (s.set x y lit).get x' y' =
      (s.pixels.set (s.cell x y).val lit (s.cell x y).isLt)[(s.cell x' y').val] := rfl
  rw [h, Vector.getElem_set]
  simp only [get, Fin.ext_iff]

/-- A repainted screen shows the new picture at every pixel. -/
theorem get_repaint (s : Screen) (lit : Nat → Nat → Bool) (x y : Int) :
    (s.repaint lit).get x y = lit (s.column x).val (s.row y).val := by
  have h : (s.repaint lit).get x y
      = (Vector.ofFn fun k : Fin (s.width * s.height) =>
          lit (k.val % s.width) (k.val / s.width))[(s.cell x y).val] := rfl
  rw [h, Vector.getElem_ofFn]
  simp only [cell, index_mod (s.column x).isLt, index_div (s.column x).isLt]

end Screen

end SuperChip
