import SuperChip.Proofs.List.Pieces
import SuperChip.Proofs.Screen.Stretches

/-!
# A grid without edges

The cells of a grid stand in one row, and columns and rows are counted modulo its size. As long as
there is a cell for every column and row, any two integers name one, and what a host is shown are
the same cells. No call changes the number of cells but the one that changes the size; it takes the
size over before it asks whether there is room for the cells.

- `Grid.TorusLaws`: what holds of a grid whose cells fit its size; `Screen.torusLaws_grid`.
- `Grid.Bounded`: an operation that leaves the size alone, on whatever grid.
- `Grid.Sound`: a grid is that of a screen, or its size is one for which there is no room;
  `Sound.perform` is that every call leaves such a grid.
- `Grid.latestSize`: the size that was taken over last.
- `calls_keep_torus`: **a grid is a torus of bits as long as there is room for its size**, whatever
  was called before.
- `torn_is_no_torus`: a size for which there is no room is taken over nevertheless.

About `Framebuffer`.
-/

namespace SuperChip

open Attempt

namespace Grid

variable {room : Room} {g t : Grid}

/-! ## The laws -/

/-- One grid is another one but for the cell at a column and a row. -/
structure DiffersAt (g t : Grid) (x y : Int) (b : UInt8) : Prop where
  width : t.width = g.width
  height : t.height = g.height
  get : ∀ x' y' : Int, ((get x' y').on t).1 =
    if x' % g.width = x % g.width ∧ y' % g.height = y % g.height then .ok b
    else ((get x' y').on g).1

/-- The cells of a grid make up a torus of bits, which is what a host is shown, and the operations
keep to it. -/
structure TorusLaws (room : Room) (g : Grid) : Prop where
  size : g.cells.size = g.width * g.height
  bit : ∀ b ∈ g.cells, b = 0 ∨ b = 1
  length_rows : g.rows.length = g.height
  length_row : ∀ row ∈ g.rows, row.length = g.width
  get : ∀ x y : Int, ∃ row b, g.rows[(y % g.height).toNat]? = some row ∧
    row[(x % g.width).toNat]? = some b ∧ (get x y).on g = (.ok b, g)
  set : ∀ x y value : Int, ∃ t, (set x y value).on g = (.ok (), t) ∧
    g.DiffersAt t x y (if value = 0 then 0 else 1)
  toggle : ∀ x y : Int, ∃ lit t, (Grid.get x y).on g = (.ok (Bool.toUInt8 lit), g) ∧
    (toggle x y).on g = (.ok lit, t) ∧ g.DiffersAt t x y (!lit).toUInt8
  litCount : g.litCount = g.rows.flatten.count 1
  resize : ∀ width height : Int, width ≤ 0 ∨ height ≤ 0 →
    (resize room width height).on g = (.error (.refused .screenSize), g)
  draw : ∀ (rows : List Int) (x y width : Int), width ≤ 0 →
    (draw room rows x y width).on g = (.error (.refused .spriteWidth), g)
  /-- There is a cell under all coordinates that are come across. -/
  placed : ∀ c cause, ((perform room c).on g).1 ≠ .error (.misplaced cause)

/-! ## Sizes -/

/-- A size that is not positive is refused before anything is changed. -/
theorem resize_of_not_pos {width height : Int} (h : ¬ (0 < width ∧ 0 < height)) (g : Grid) :
    (resize room width height).on g = (.error (.refused .screenSize), g) := by
  rw [resize, dif_neg h, on_throw]

/-- So is a sprite without a width. -/
theorem draw_of_not_pos {width : Int} (h : width ≤ 0) (rows : List Int) (x y : Int) (g : Grid) :
    (draw room rows x y width).on g = (.error (.refused .spriteWidth), g) := by
  have hsprite : Sprite.ofRows? room rows width = .error .spriteWidth := if_pos h
  have hchecked : (checked (Sprite.ofRows? room rows width)).on g =
      (.error (.refused .spriteWidth), g) := by
    rw [hsprite]
    rfl
  exact bind_of_error hchecked

theorem toNat_mul_toNat {width height : Int} (hwidth : 0 < width.toNat)
    (hheight : 0 < height.toNat) :
    ((width.toNat * height.toNat : Nat) : Int) = width * height := by
  rw [Int.natCast_mul, Int.toNat_of_nonneg (by omega), Int.toNat_of_nonneg (by omega)]

/-- The grid of a dark screen is all zeros. -/
theorem grid_dark {width height : Nat} (hwidth : 0 < width) (hheight : 0 < height) :
    (Screen.dark width height hwidth hheight).grid =
      ⟨width, height, hwidth, hheight, Array.replicate (width * height) 0⟩ := by
  have hzero : false.toUInt8 = 0 := rfl
  simp [Screen.grid, Screen.dark, hzero]

/-- Another size that has room makes a grid a dark screen. -/
theorem resize_of_le {width height : Int} (hwidth : 0 < width.toNat) (hheight : 0 < height.toNat)
    (hroom : width * height ≤ room.bytes) (g : Grid) :
    (resize room width height).on g =
      (.ok (), (Screen.dark width.toNat height.toNat hwidth hheight).grid) := by
  have hcells := toNat_mul_toNat hwidth hheight ▸ hroom
  rw [resize, dif_pos (by omega), bind_of_ok (on_modify _ g), bind_of_ok (dark_of_le hcells _),
    on_modify, grid_dark]

/-- A size that has no room is taken over, and the cells stay. -/
theorem resize_of_lt {width height : Int} (hwidth : 0 < width.toNat) (hheight : 0 < height.toNat)
    (hroom : room.bytes < width * height) (g : Grid) :
    (resize room width height).on g =
      (.error (.refused (.oversize
          (if Extent.maxIndex < width * height then .uncountable else .noRoom))),
        ⟨width.toNat, height.toNat, hwidth, hheight, g.cells⟩) := by
  have hcells := toNat_mul_toNat hwidth hheight
  have hcheck : Extent.check room (width * height) 1 = .error _ :=
    Extent.check_of_lt (by rwa [Int.mul_one])
  rw [resize, dif_pos (by omega), bind_of_ok (on_modify _ g), dark, hcells, Invalid.checkRoom,
    hcheck]
  rfl

/-- A size is refused, or there is no room for it, but no cell is looked for. -/
theorem placed_resize (width height : Int) (g : Grid) (cause : Misplaced) :
    ((perform room (.resize width height)).on g).1 ≠ .error (.misplaced cause) := by
  by_cases hpos : 0 < width ∧ 0 < height
  · have hwidth := toNat_width_pos hpos
    have hheight := toNat_height_pos hpos
    by_cases hroom : width * height ≤ room.bytes
    · rw [perform, bind_of_ok (resize_of_le hwidth hheight hroom g), on_pure]
      exact nofun
    · rw [perform, bind_of_error (resize_of_lt hwidth hheight (Int.not_le.1 hroom) g)]
      exact nofun
  · rw [perform, bind_of_error (resize_of_not_pos hpos g)]
    exact nofun

/-- A new grid is a dark screen that has room. -/
theorem ofSize?_eq_ok {width height : Int} (h : ofSize? room width height = .ok g) :
    ∃ hwidth hheight, width * height ≤ room.bytes ∧
      g = (Screen.dark width.toNat height.toNat hwidth hheight).grid := by
  unfold ofSize? at h
  split at h
  next hpos =>
    cases hcheck : Invalid.checkRoom room (width * height) 1 with
    | error e =>
      rw [hcheck] at h
      cases h
    | ok u =>
      rw [hcheck] at h
      cases h
      exact ⟨toNat_width_pos hpos, toNat_height_pos hpos, checkRoom_eq_ok_iff.1 hcheck,
        (grid_dark _ _).symm⟩
  next => cases h

/-! ## Operations that leave the size alone -/

/-- An operation leaves the size as it is, and no more cells than there is room for. -/
def Bounded (room : Room) {α : Type} (x : Op α) : Prop :=
  ∀ g : Grid, (g.cells.size : Int) ≤ room.bytes → ∀ t, (x.on g).2 = t →
    t.width = g.width ∧ t.height = g.height ∧ (t.cells.size : Int) ≤ room.bytes

namespace Bounded

variable {α β : Type} {x : Op α} {f : α → Op β}

/-- An operation that changes nothing. -/
theorem of_same (h : ∀ g, (x.on g).2 = g) : Bounded room x := by
  rintro g hg _ rfl
  rw [h g]
  exact ⟨rfl, rfl, hg⟩

/-- Bounded operations one after the other are bounded. -/
theorem bind (hx : Bounded room x) (hf : ∀ a, Bounded room (f a)) : Bounded room (x >>= f) := by
  rintro g hg _ rfl
  obtain ⟨hwidth, hheight, hcells⟩ := hx g hg _ rfl
  rw [on_bind]
  cases hon : x.on g with
  | mk r t =>
    rw [hon] at hwidth hheight hcells
    cases r with
    | error e => exact ⟨hwidth, hheight, hcells⟩
    | ok a =>
      obtain ⟨hwidth', hheight', hcells'⟩ := hf a t hcells _ rfl
      exact ⟨hwidth'.trans hwidth, hheight'.trans hheight, hcells'⟩

/-- An answer of its own changes nothing. -/
theorem pure (a : α) : Bounded room (Pure.pure a : Op α) := of_same fun _ => rfl

/-- Reading changes nothing. -/
theorem read : Bounded room (MonadState.get : Op Grid) := of_same fun _ => rfl

/-- Nor does a check. -/
theorem checked (r : Except Invalid α) : Bounded room (checked r) := by
  refine of_same fun g => ?_
  rw [Grid.checked, on_ofExcept]

theorem map {h : α → β} (hx : Bounded room x) : Bounded room (h <$> x) := by
  rw [map_eq_pure_bind]
  exact hx.bind fun _ => pure _

/-- A bounded operation is bounded however often it is repeated. -/
theorem forM {f : α → Op PUnit} (hf : ∀ a, Bounded room (f a)) (l : List α) :
    Bounded room (ForM.forM l f) := by
  induction l with
  | nil => exact pure _
  | cons a l ih =>
    rw [List.forM_cons]
    exact (hf a).bind fun _ => ih

end Bounded

open Bounded in
theorem bounded_get (x y : Int) : Bounded room (get x y) := by
  refine read.bind fun g => ?_
  split
  · exact .pure _
  · exact of_same fun _ => rfl

theorem bounded_put (x y : Int) (b : UInt8) : Bounded room (put x y b) := by
  rintro g hg _ rfl
  rw [put, bind_of_ok (on_get g)]
  split
  · rw [on_set]
    exact ⟨rfl, rfl, by simpa using hg⟩
  · exact ⟨rfl, rfl, hg⟩

theorem bounded_toggle (x y : Int) : Bounded room (toggle x y) :=
  (bounded_get x y).bind fun _ => (bounded_put x y _).bind fun _ => .pure _

theorem bounded_toggleAll (points : List (Int × Int)) : Bounded room (toggleAll points) := by
  induction points with
  | nil => exact .pure _
  | cons p points ih => exact (bounded_toggle p.1 p.2).bind fun _ => ih.bind fun _ => .pure _

theorem bounded_dark (length : Nat) : Bounded room (dark room length) :=
  (Bounded.checked _).bind fun _ => .pure _

/-- A stretch is only put in if all cells have room afterwards. -/
theorem bounded_splice (start stop : Nat) (entering : Array UInt8) :
    Bounded room (splice room start stop entering) := by
  rintro g hg _ rfl
  by_cases hroom : ((g.spliced start stop entering).size : Int) ≤ room.bytes
  · rw [splice_of_le hroom]
    exact ⟨rfl, rfl, hroom⟩
  · have hcheck : Extent.check room (g.spliced start stop entering).size 1 = .error _ :=
      Extent.check_of_lt (by rw [Int.mul_one]; exact Int.not_le.1 hroom)
    rw [splice, bind_of_ok (on_get g), Invalid.checkRoom, hcheck]
    exact ⟨rfl, rfl, hg⟩

theorem bounded_mapRows {move : Array UInt8 → Op (Array UInt8)}
    (hmove : ∀ row, Bounded room (move row)) : Bounded room (mapRows room move) :=
  Bounded.read.bind fun _ => .forM (fun _ => Bounded.read.bind fun _ => (hmove _).bind fun _ =>
    bounded_splice _ _ _) _

/-- Every call but the one that changes the size leaves it alone, on whatever grid. -/
theorem bounded_perform {c : Call} (hc : ∀ width height, c ≠ .resize width height) :
    Bounded room (perform room c) := by
  cases c with
  | clear =>
    exact (Bounded.read.bind fun _ => (bounded_dark _).bind fun _ => bounded_splice _ _ _).bind
      fun _ => .pure _
  | resize width height => exact absurd rfl (hc width height)
  | set x y value => exact (bounded_put x y _).bind fun _ => .pure _
  | toggle x y => exact (bounded_toggle x y).map
  | draw rows x y width => exact ((Bounded.checked _).bind fun _ => bounded_toggleAll _).map
  | scrollDown distance =>
    refine (Bounded.read.bind fun g => ?_).bind fun _ => .pure _
    dsimp only
    split
    · exact .pure _
    · exact Bounded.read.bind fun _ => (bounded_splice _ _ _).bind fun _ =>
        (bounded_dark _).bind fun _ => bounded_splice _ _ _
  | scrollRight distance =>
    exact (Bounded.read.bind fun _ => bounded_mapRows fun _ =>
      (bounded_dark _).bind fun _ => .pure _).bind fun _ => .pure _
  | scrollLeft distance =>
    exact (Bounded.read.bind fun _ => bounded_mapRows fun _ =>
      (bounded_dark _).bind fun _ => .pure _).bind fun _ => .pure _

end Grid

/-! ## The grid of a screen -/

namespace Screen

variable {s : Screen} {room : Room}

/-- Every call but the one that changes the size leaves another screen of that size, and comes
across no coordinates without a cell. -/
theorem exists_perform_grid (h : s.Fits room) {c : Grid.Call}
    (hc : ∀ width height, c ≠ .resize width height) :
    ∃ r s', (Grid.perform room c).on s.grid = (r, grid s') ∧ s'.width = s.width ∧
      s'.height = s.height ∧ ∀ cause, r ≠ .error (.misplaced cause) := by
  cases c with
  | clear => exact ⟨_, s.clear, bind_of_ok (clear_grid h), rfl, rfl, nofun⟩
  | resize width height => exact absurd rfl (hc width height)
  | set x y value => exact ⟨_, _, bind_of_ok (s.set_grid x y value), rfl, rfl, nofun⟩
  | toggle x y =>
    refine ⟨.ok (some (s.get x y)), s.toggle x y, ?_, rfl, rfl, nofun⟩
    rw [Grid.perform, map_eq_pure_bind, bind_of_ok (s.toggle_grid x y), on_pure]
  | draw rows x y width =>
    rw [Grid.perform, map_eq_pure_bind]
    by_cases hwidth : width ≤ 0
    · exact ⟨_, s, bind_of_error (Grid.draw_of_not_pos hwidth rows x y _), rfl, rfl, nofun⟩
    · have hdraw := s.draw_grid room ⟨rows, width.toNat⟩ (by show 0 < width.toNat; omega) x y
      have hcast : ((width.toNat : Nat) : Int) = width := Int.toNat_of_nonneg (by omega)
      rw [hcast] at hdraw
      cases hbit : Sprite.checkBit room (width - 1) with
      | ok u =>
        rw [hbit] at hdraw
        exact ⟨_, _, bind_of_ok hdraw, s.width_draw _ x y, s.height_draw _ x y, nofun⟩
      | error cause =>
        rw [hbit] at hdraw
        exact ⟨_, s, bind_of_error hdraw, rfl, rfl, nofun⟩
  | scrollDown distance => exact ⟨_, _, bind_of_ok (scrollDown_grid h distance), rfl, rfl, nofun⟩
  | scrollRight distance => exact ⟨_, _, bind_of_ok (scrollRight_grid h distance), rfl, rfl, nofun⟩
  | scrollLeft distance => exact ⟨_, _, bind_of_ok (scrollLeft_grid h distance), rfl, rfl, nofun⟩

/-- The rows that are shown are the cells, cut into rows. -/
theorem flatten_rows_grid (s : Screen) : s.grid.rows.flatten = s.grid.cells.toList := by
  have hrow : ∀ y,
      (s.grid.row y).toList = (s.grid.cells.toList.drop (y * s.width)).take s.width := by
    intro y
    rw [Grid.row, Array.toList_extract, List.extract_eq_take_drop, Nat.add_sub_cancel_left]
    rfl
  rw [Grid.rows, ← List.flatMap_def]
  simp only [hrow]
  rw [show s.grid.height = s.height from rfl, flatMap_drop_take, List.take_of_length_le]
  rw [Array.length_toList, size_cells_grid]
  exact Nat.le_of_eq (Nat.mul_comm s.width s.height)

/-- A screen on which a pixel is set has a grid that differs in its cell. -/
theorem differsAt_grid (s : Screen) (x y : Int) (lit : Bool) :
    s.grid.DiffersAt (s.set x y lit).grid x y lit.toUInt8 where
  width := rfl
  height := rfl
  get x' y' := by
    have hcell : s.cell x y = s.cell x' y' ↔
        x' % s.grid.width = x % s.grid.width ∧ y' % s.grid.height = y % s.grid.height := by
      rw [eq_comm, cell_eq_iff_emod]
      rfl
    rw [get_grid, get_grid, get_set, ← if_congr hcell rfl rfl]
    split <;> rfl

/-- Bits that are added up give the number of ones. -/
theorem foldl_toNat_bits (lit : List Bool) (n : Nat) :
    (lit.map Bool.toUInt8).foldl (fun lit b => lit + b.toNat) n =
      n + (lit.map Bool.toUInt8).count 1 := by
  induction lit generalizing n with
  | nil => rfl
  | cons b lit ih =>
    rw [List.map_cons, List.foldl_cons, ih, List.count_cons]
    cases b
    · rfl
    · exact (Nat.add_assoc _ _ _).trans (congrArg (n + ·) (Nat.add_comm _ _))

/-- **The cells of a screen make up a torus of bits.** -/
theorem torusLaws_grid (h : s.Fits room) : s.grid.TorusLaws room where
  size := s.size_cells_grid
  bit b hb := by
    obtain ⟨lit, -, rfl⟩ := Array.mem_map.1 hb
    cases lit
    · exact .inl rfl
    · exact .inr rfl
  length_rows := by rw [Grid.rows, List.length_map, List.length_range]
  length_row := by
    intro row hrow
    obtain ⟨y, hy, rfl⟩ := List.mem_map.1 hrow
    rw [Array.length_toList]
    exact Grid.size_row s.size_cells_grid (List.mem_range.1 hy)
  get x y := by
    refine ⟨(s.grid.row (s.row y).val).toList, (s.get x y).toUInt8, ?_, ?_, s.get_grid x y⟩
    · show s.grid.rows[(s.row y).val]? = _
      have hrow : (List.range s.grid.height)[(s.row y).val]? = some (s.row y).val :=
        List.getElem?_range (s.row y).isLt
      rw [Grid.rows, List.getElem?_map, hrow]
      rfl
    · show (s.grid.row (s.row y).val).toList[(s.column x).val]? = _
      rw [Array.getElem?_toList, getElem?_row_grid (s.column x).isLt (s.row y).isLt, get_column_row]
  set x y value := by
    rw [← toUInt8_decide]
    exact ⟨_, s.set_grid x y value, s.differsAt_grid x y _⟩
  toggle x y := ⟨s.get x y, _, s.get_grid x y, s.toggle_grid x y, s.differsAt_grid x y _⟩
  litCount := by
    have hcells : s.grid.cells.toList = s.pixels.toList.map Bool.toUInt8 := Array.toList_map ..
    rw [flatten_rows_grid, Grid.litCount, hcells, foldl_toNat_bits, Nat.zero_add]
  resize width height hsize := Grid.resize_of_not_pos (by omega) s.grid
  draw rows x y width hwidth := Grid.draw_of_not_pos hwidth rows x y s.grid
  placed c cause := by
    by_cases hc : ∃ width height, c = .resize width height
    · obtain ⟨width, height, rfl⟩ := hc
      exact Grid.placed_resize width height s.grid cause
    · obtain ⟨r, s', hon, -, -, hr⟩ := exists_perform_grid h fun width height hresize =>
        hc ⟨width, height, hresize⟩
      rw [hon]
      exact hr cause

end Screen

/-! ## Rows of calls -/

namespace Grid

variable {room : Room} {g t : Grid} {c : Call}

/-- The size that a call asks for, if there is one with a pixel. -/
def Call.size? : Call → Option (Int × Int)
  | resize width height => if 0 < width ∧ 0 < height then some (width, height) else none
  | _ => none

/-- The size that was taken over last. -/
def latestSize (size : Int × Int) (calls : List Call) : Int × Int :=
  calls.foldl (fun size c => c.size?.getD size) size

/-- A grid has a size. Either it is that of a screen, or there is no room for as many cells. -/
structure Sound (room : Room) (g : Grid) (size : Int × Int) : Prop where
  size_eq : ((g.width : Int), (g.height : Int)) = size
  screen : (∃ s : Screen, s.Fits room ∧ g = s.grid) ∨
    (g.cells.size : Int) ≤ room.bytes ∧ room.bytes < (g.width * g.height : Nat)

/-- There is always room for the cells that there are. -/
theorem Sound.cells_le {size : Int × Int} (h : g.Sound room size) :
    (g.cells.size : Int) ≤ room.bytes := by
  obtain ⟨s, hs, rfl⟩ | ⟨hcells, -⟩ := h.screen
  · exact hs.cells
  · exact hcells

/-- The grid of a screen that has room is sound. -/
theorem sound_grid {s : Screen} (h : s.Fits room) {size : Int × Int}
    (hsize : ((s.width : Int), (s.height : Int)) = size) : s.grid.Sound room size :=
  ⟨hsize, .inl ⟨s, h, rfl⟩⟩

/-- A dark screen of a size that has room. -/
theorem sound_dark {width height : Int} (hwidth : 0 < width.toNat) (hheight : 0 < height.toNat)
    (hroom : width * height ≤ room.bytes) :
    (Screen.dark width.toNat height.toNat hwidth hheight).grid.Sound room (width, height) := by
  have hfits : (Screen.dark width.toNat height.toNat hwidth hheight).Fits room :=
    (toNat_mul_toNat hwidth hheight).trans_le hroom
  refine sound_grid hfits ?_
  exact Prod.ext (Int.toNat_of_nonneg (by omega)) (Int.toNat_of_nonneg (by omega))

/-- Whatever is called, the size is the one that was taken over last, and the cells fit it unless
there is no room for them. -/
theorem Sound.perform {size : Int × Int} (h : g.Sound room size) (c : Call) :
    (((perform room c).on g).2).Sound room (c.size?.getD size) := by
  by_cases hc : ∃ width height, c = .resize width height
  · obtain ⟨width, height, rfl⟩ := hc
    by_cases hpos : 0 < width ∧ 0 < height
    · have hwidth : 0 < width.toNat := by omega
      have hheight : 0 < height.toNat := by omega
      have hsize : (Call.resize width height).size?.getD size = (width, height) := by
        rw [Call.size?, if_pos hpos]
        rfl
      rw [hsize]
      by_cases hroom : width * height ≤ room.bytes
      · rw [Grid.perform, bind_of_ok (resize_of_le hwidth hheight hroom g), on_pure]
        exact sound_dark hwidth hheight hroom
      · have hlt := Int.not_le.1 hroom
        rw [Grid.perform, bind_of_error (resize_of_lt hwidth hheight hlt g)]
        refine ⟨Prod.ext (Int.toNat_of_nonneg (by omega)) (Int.toNat_of_nonneg (by omega)),
          .inr ⟨h.cells_le, ?_⟩⟩
        rwa [toNat_mul_toNat hwidth hheight]
    · have hsize : (Call.resize width height).size?.getD size = size := by
        rw [Call.size?, if_neg hpos]
        rfl
      rw [hsize, Grid.perform, bind_of_error (resize_of_not_pos hpos g)]
      exact h
  · have hc : ∀ width height, c ≠ .resize width height := fun width height hresize =>
      hc ⟨width, height, hresize⟩
    have hsize : c.size?.getD size = size := by
      cases c with
      | resize width height => exact absurd rfl (hc width height)
      | _ => rfl
    rw [hsize]
    obtain ⟨s, hs, rfl⟩ | ⟨hcells, hlt⟩ := h.screen
    · obtain ⟨r, s', hon, hwidth, hheight, -⟩ := Screen.exists_perform_grid hs hc
      rw [hon]
      refine sound_grid (by rwa [Screen.Fits, hwidth, hheight]) ?_
      rw [hwidth, hheight]
      exact h.size_eq
    · obtain ⟨hwidth, hheight, hcells'⟩ := bounded_perform hc g hcells _ rfl
      refine ⟨?_, .inr ⟨hcells', ?_⟩⟩
      · rw [hwidth, hheight]
        exact h.size_eq
      · rwa [hwidth, hheight]

/-- Calls keep a grid sound, and the size is the one that was taken over last. -/
theorem Sound.after {size : Int × Int} (h : g.Sound room size) (calls : List Call) :
    (g.after room calls).Sound room (latestSize size calls) := by
  induction calls generalizing g size with
  | nil => exact h
  | cons c calls ih => exact ih (h.perform c)

/-- **A grid is a torus of bits as long as there is room for its size.** The size is always the one
that was taken over last, and where there is no room for it the cells are too few. -/
theorem calls_keep_torus {width height : Int} (hg : ofSize? room width height = .ok g)
    (calls : List Call) :
    let t := g.after room calls
    ((t.width : Int), (t.height : Int)) = latestSize (width, height) calls ∧
      ((t.width * t.height : Nat) ≤ room.bytes → t.TorusLaws room) ∧
      (room.bytes < (t.width * t.height : Nat) → t.cells.size < t.width * t.height) := by
  obtain ⟨hwidth, hheight, hroom, rfl⟩ := ofSize?_eq_ok hg
  have hsound := (sound_dark hwidth hheight hroom).after calls
  intro t
  refine ⟨hsound.size_eq, fun hfits => ?_, fun hlt => ?_⟩
  · obtain ⟨s, hs, ht⟩ | ⟨-, hlt⟩ := hsound.screen
    · show Grid.TorusLaws room (Grid.after _ room calls)
      rw [ht]
      exact Screen.torusLaws_grid hs
    · exact absurd hfits (Int.not_le.2 hlt)
  · have hcells : (t.cells.size : Int) ≤ room.bytes := hsound.cells_le
    omega

/-- A grid on which a pixel is set through its edges and turned over again, and that then gets
another size. -/
theorem calls_keep_torus_of_small :
    ∃ g t, ofSize? .all 2 2 = .ok g ∧
      g.after .all [.set 3 (-1) 5, .toggle (-1) 1, .draw [1] 0 0 0, .resize 0 7, .resize 3 1,
        .set 100 100 1] = t ∧
      t.TorusLaws .all ∧ t.rows = [[0, 1, 0]] ∧ t.litCount = 1 := by
  have hg : ofSize? .all 2 2 = .ok ⟨2, 2, by decide, by decide, #[0, 0, 0, 0]⟩ := rfl
  have ht : Grid.after ⟨2, 2, by decide, by decide, #[0, 0, 0, 0]⟩ .all
      [.set 3 (-1) 5, .toggle (-1) 1, .draw [1] 0 0 0, .resize 0 7, .resize 3 1, .set 100 100 1] =
        ⟨3, 1, by decide, by decide, #[0, 1, 0]⟩ := rfl
  obtain ⟨-, hlaws, -⟩ := calls_keep_torus hg
    [.set 3 (-1) 5, .toggle (-1) 1, .draw [1] 0 0 0, .resize 0 7, .resize 3 1, .set 100 100 1]
  rw [ht] at hlaws
  exact ⟨_, _, hg, ht, hlaws (by decide), rfl, rfl⟩

/-- **A size for which there is no room is taken over nevertheless.** The two cells of before are
not enough for it, so that columns which name a cell have none. -/
theorem torn_is_no_torus :
    ∃ g t, ofSize? .all 2 1 = .ok g ∧
      g.after .all [.set 0 0 1, .resize 0x8000000000000000 1] = t ∧
      t.width = 0x8000000000000000 ∧ t.height = 1 ∧ t.cells = #[1, 0] ∧
      ((get 2 0).on t).1 = .error (.misplaced .outside) := by
  let lit : Grid := ⟨2, 1, by decide, by decide, #[1, 0]⟩
  have htorn : (resize .all 0x8000000000000000 1).on lit = _ :=
    resize_of_lt (by decide) (by decide) (by decide) lit
  refine ⟨⟨2, 1, by decide, by decide, #[0, 0]⟩, _, rfl, rfl, ?_⟩
  have hafter : Grid.after ⟨2, 1, by decide, by decide, #[0, 0]⟩ .all
      [.set 0 0 1, .resize 0x8000000000000000 1] =
        ⟨0x8000000000000000, 1, by decide, by decide, #[1, 0]⟩ :=
    congrArg Prod.snd (bind_of_error htorn)
  rw [hafter]
  exact ⟨rfl, rfl, rfl, rfl⟩

end Grid

end SuperChip
