import SuperChip.Screen.Call

/-!
# A screen as a row of cells

As long as the cells of a grid fit its size the grid is that of a screen, and what a host does to it
is done to the screen. Whether there is room is asked for each row of cells that is made on the way;
where the cells themselves have room, none of these questions is answered with no.

- `Grid.checkRoom_eq_ok_iff`: when a row of cells is refused.
- `Grid.dark_of_le`, `Grid.splice_of_le`: rows of cells for which there is room.
- `Screen.get_grid`, `set_grid`, `toggle_grid`: single pixels of a screen and of its grid.
-/

namespace SuperChip

namespace Grid

variable {room : Room} {g : Grid}

open Attempt

/-! ## Room -/

/-- A row of cells is refused exactly if there is no room for a byte for each of them. -/
theorem checkRoom_eq_ok_iff {length : Int} :
    Invalid.checkRoom room length 1 = .ok () ↔ length ≤ room.bytes := by
  have hcheck : Extent.check room length 1 = .ok () ↔ length ≤ room.bytes := by
    rw [Extent.check_eq_ok_iff Int.one_pos, Int.mul_one]
  rw [← hcheck, Invalid.checkRoom]
  cases Extent.check room length 1 with
  | error e =>
    constructor
    · intro h
      cases h
    · intro h
      cases h
  | ok u => exact ⟨fun _ => rfl, fun _ => rfl⟩

/-- Where there is room the check lets a grid through as it is. -/
theorem checked_of_le {length : Int} (h : length ≤ room.bytes) (g : Grid) :
    (checked (Invalid.checkRoom room length 1)).on g = (.ok (), g) := by
  rw [checkRoom_eq_ok_iff.2 h]
  rfl

/-- Where there is room for a row of dark cells it is made. -/
theorem dark_of_le {length : Nat} (h : (length : Int) ≤ room.bytes) (g : Grid) :
    (dark room length).on g = (.ok (Array.replicate length 0), g) := by
  rw [dark, bind_of_ok (checked_of_le h g), on_pure]

/-- Where there is room for all cells a stretch of them is replaced. -/
theorem splice_of_le {start stop : Nat} {entering : Array UInt8}
    (h : ((g.spliced start stop entering).size : Int) ≤ room.bytes) :
    (splice room start stop entering).on g =
      (.ok (), { g with cells := g.spliced start stop entering }) := by
  rw [splice, bind_of_ok (on_get g), bind_of_ok (checked_of_le h g), on_set]

end Grid

namespace Screen

variable (s : Screen)

open Attempt

theorem size_cells_grid : s.grid.cells.size = s.width * s.height := by simp [grid]

/-- The cell under a column and a row of the grid is the one of the screen. -/
theorem index_grid (x y : Int) : s.grid.index x y = (s.cell x y).val := rfl

/-- A cell of the grid is a pixel of the screen. -/
theorem getElem?_cells_grid (k : Fin (s.width * s.height)) :
    s.grid.cells[k.val]? = some s.pixels[k.val].toUInt8 := by
  simp [grid]

/-- A host finds a one under a lit pixel and a zero under a dark one. -/
theorem get_grid (x y : Int) :
    (Grid.get x y).on s.grid = (.ok (s.get x y).toUInt8, s.grid) := by
  rw [Grid.get, bind_of_ok (on_get s.grid)]
  simp only [index_grid, getElem?_cells_grid s (s.cell x y), on_pure]
  rfl

theorem put_grid (x y : Int) (lit : Bool) :
    (Grid.put x y lit.toUInt8).on s.grid = (.ok (), (s.set x y lit).grid) := by
  have hlt : s.grid.index x y < s.grid.cells.size := by
    rw [index_grid, size_cells_grid]
    exact (s.cell x y).isLt
  have hcells : s.grid.cells.setIfInBounds (s.grid.index x y) lit.toUInt8 =
      (s.set x y lit).grid.cells := by
    rw [Array.setIfInBounds_def, dif_pos hlt]
    simp only [grid, set, Vector.toArray_set, Array.map_set]
    rfl
  rw [Grid.put, bind_of_ok (on_get s.grid), if_pos hlt, on_set, hcells]
  rfl

/-- A pixel is lit by any number but zero. -/
theorem toUInt8_decide (value : Int) :
    (decide (value ≠ 0)).toUInt8 = if value = 0 then 0 else 1 := by
  by_cases hvalue : value = 0
  · rw [if_pos hvalue, decide_eq_false (not_not_intro hvalue)]
    rfl
  · rw [if_neg hvalue, decide_eq_true hvalue]
    rfl

/-- A pixel that is set on the grid is set on the screen. -/
theorem set_grid (x y value : Int) :
    (Grid.set x y value).on s.grid = (.ok (), (s.set x y (decide (value ≠ 0))).grid) := by
  rw [Grid.set, ← toUInt8_decide, put_grid]

/-- Turning over a pixel of the grid turns over that of the screen, and says what it was. -/
theorem toggle_grid (x y : Int) :
    (Grid.toggle x y).on s.grid = (.ok (s.get x y), (s.toggle x y).grid) := by
  have hflip : (s.get x y).toUInt8 ^^^ 1 = (!s.get x y).toUInt8 := by
    cases s.get x y <;> rfl
  have hlit : ((s.get x y).toUInt8 == 1) = s.get x y := by
    cases s.get x y <;> rfl
  rw [Grid.toggle, bind_of_ok (get_grid s x y), hflip, bind_of_ok (put_grid s x y _), on_pure, hlit]
  rfl

end Screen

end SuperChip
