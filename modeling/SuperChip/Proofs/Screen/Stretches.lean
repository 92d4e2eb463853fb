import SuperChip.Proofs.Screen.Scrolling

/-!
# Scrolling the cells of a screen

Clearing and scrolling put stretches of cells in place of others, and their length is what keeps the
row of cells as long as it was. On a screen every stretch that is put in has the length of the one
that it replaces, so that the cells afterwards are those of the scrolled screen.

- `Grid.getElem?_spliced`: the cells after a stretch was replaced by one of the same length.
- `Grid.Moved`, `Grid.mapRows_on`: the cells after one row after the other was replaced.
- `Grid.Lowered`, `Grid.lower_on`: the cells after they moved on by a number of places.
- `Screen.eq_grid`: a grid that has the pixels of a screen is that of the screen.
- `Screen.clear_grid`, `scrollDown_grid`, `scrollRight_grid`, `scrollLeft_grid`: **what is done to
  the cells of a screen is done to the screen**.
-/

namespace SuperChip

namespace Grid

variable {room : Room} {g : Grid}

open Attempt

/-! ## Stretches of cells -/

/-- A stretch that is replaced by one of the same length leaves all other cells where they are. -/
theorem size_spliced {start stop : Nat} {entering : Array UInt8} (hle : start ≤ stop)
    (hstop : stop ≤ g.cells.size) (hentering : entering.size = stop - start) :
    (g.spliced start stop entering).size = g.cells.size := by
  simp only [spliced, Array.size_append, Array.size_extract]
  omega

/-- A stretch of cells is replaced, and the others stay. -/
theorem getElem?_spliced {start stop : Nat} {entering : Array UInt8} (hle : start ≤ stop)
    (hstop : stop ≤ g.cells.size) (hentering : entering.size = stop - start) (k : Nat) :
    (g.spliced start stop entering)[k]? =
      if start ≤ k ∧ k < stop then entering[k - start]? else g.cells[k]? := by
  have hfront : (g.cells.extract 0 start).size = start := by
    rw [Array.size_extract]
    omega
  have hmiddle : (g.cells.extract 0 start ++ entering).size = stop := by
    rw [Array.size_append]
    omega
  rw [spliced, Array.getElem?_append, hmiddle, Array.getElem?_append, hfront]
  by_cases hk : k < stop
  · rw [if_pos hk]
    by_cases hs : k < start
    · rw [if_pos hs, if_neg (by omega), Array.getElem?_extract, if_pos (by omega), Nat.zero_add]
    · rw [if_neg hs, if_pos ⟨by omega, hk⟩]
  · rw [if_neg hk, if_neg (by omega), Array.getElem?_extract]
    by_cases hlast : k < g.cells.size
    · rw [if_pos (by omega), show stop + (k - stop) = k by omega]
    · rw [if_neg (by omega), Array.getElem?_eq_none (by omega)]

/-! ## One row after the other -/

/-- The first rows of a grid were replaced, and the others are as they were. -/
structure Moved (g : Grid) (f : Array UInt8 → Array UInt8) (count : Nat) (t : Grid) : Prop where
  width : t.width = g.width
  height : t.height = g.height
  size : t.cells.size = g.cells.size
  cell : ∀ X < g.width, ∀ Y, t.cells[Y * g.width + X]? =
    if Y < count then (f (g.row Y))[X]? else g.cells[Y * g.width + X]?

/-- What is to come in place of a row depends on its cells, and has the length of a row. -/
structure Moves (g : Grid) (move : Array UInt8 → Op (Array UInt8))
    (f : Array UInt8 → Array UInt8) : Prop where
  on : ∀ row t, row.size = g.width → (move row).on t = (.ok (f row), t)
  size : ∀ row, row.size = g.width → (f row).size = g.width

variable {move : Array UInt8 → Op (Array UInt8)} {f : Array UInt8 → Array UInt8} {t : Grid}
  {n : Nat}

/-- A row has as many cells as there are columns. -/
theorem size_row (hg : g.cells.size = g.width * g.height) (hn : n < g.height) :
    (g.row n).size = g.width := by
  have hlast : n * g.width + g.width ≤ g.width * g.height := by
    rw [← Nat.succ_mul, Nat.mul_comm g.width]
    exact Nat.mul_le_mul_right g.width hn
  rw [row, Array.size_extract]
  omega

/-- A row that was not moved yet is as it was. -/
theorem Moved.row_eq (h : Moved g f n t) : t.row n = g.row n := by
  refine Array.ext_getElem? fun X => ?_
  rw [row, row, Array.getElem?_extract, Array.getElem?_extract, h.size, h.width]
  by_cases hX : X < g.width
  · rw [h.cell X hX n, if_neg (Nat.lt_irrefl n)]
  · rw [if_neg (by omega), if_neg (by omega)]

/-- The next row is replaced. -/
theorem Moved.mapRow (hg : g.cells.size = g.width * g.height)
    (hroom : (g.cells.size : Int) ≤ room.bytes) (hm : g.Moves move f) (hn : n < g.height)
    (h : Moved g f n t) :
    ∃ t', (mapRow room move n).on t = (.ok (), t') ∧ Moved g f (n + 1) t' := by
  have hlast : n * t.width + t.width ≤ t.cells.size := by
    rw [h.size, h.width, hg, ← Nat.succ_mul, Nat.mul_comm g.width]
    exact Nat.mul_le_mul_right g.width hn
  have hrow : (g.row n).size = g.width := size_row hg hn
  have hentering : (f (g.row n)).size = n * t.width + t.width - n * t.width := by
    rw [hm.size _ hrow, h.width]
    omega
  have hsize := size_spliced (Nat.le_add_right _ _) hlast hentering
  have hsplice : (splice room _ _ _).on t = _ := splice_of_le (hsize.trans h.size ▸ hroom)
  let t' : Grid := { t with cells := t.spliced (n * t.width) (n * t.width + t.width) (f (g.row n)) }
  refine ⟨t', ?_, h.width, h.height, hsize.trans h.size, fun X hX Y => ?_⟩
  · rw [Grid.mapRow, bind_of_ok (on_get t), h.row_eq, bind_of_ok (hm.on _ t hrow), hsplice]
  have hindex := getElem?_spliced (Nat.le_add_right _ _) hlast hentering (Y * g.width + X)
  refine hindex.trans ?_
  rw [h.width]
  by_cases hY : Y = n
  · rw [hY, if_pos (by omega), if_pos (Nat.lt_succ_self n), Nat.add_sub_cancel_left]
  · have hother : ¬ (n * g.width ≤ Y * g.width + X ∧ Y * g.width + X < n * g.width + g.width) := by
      rw [← Nat.succ_mul]
      rintro ⟨hfrom, hto⟩
      rcases Nat.lt_or_gt_of_ne hY with hlt | hlt
      · have hle := Nat.mul_le_mul_right g.width (Nat.succ_le_of_lt hlt)
        rw [Nat.succ_mul] at hle
        omega
      · have hle := Nat.mul_le_mul_right g.width (Nat.succ_le_of_lt hlt)
        omega
    have hcount : Y < n + 1 ↔ Y < n := by omega
    simp only [if_neg hother, h.cell X hX Y, hcount]

/-- Row after row all of them are moved. -/
theorem mapRows_on (hg : g.cells.size = g.width * g.height)
    (hroom : (g.cells.size : Int) ≤ room.bytes) (hm : g.Moves move f) :
    ∃ t, (mapRows room move).on g = (.ok (), t) ∧ Moved g f g.height t := by
  have hrows : ∀ n ≤ g.height, ∃ t,
      (forM (List.range n) (mapRow room move)).on g = (.ok (), t) ∧ Moved g f n t := by
    intro n
    induction n with
    | zero => exact fun _ => ⟨g, rfl, rfl, rfl, rfl, fun X _ Y => rfl⟩
    | succ n ih =>
      intro hn
      obtain ⟨t, ht, hmoved⟩ := ih (Nat.le_of_succ_le hn)
      obtain ⟨t', ht', hmoved'⟩ := hmoved.mapRow hg hroom hm hn
      refine ⟨t', ?_, hmoved'⟩
      rw [List.range_succ, List.forM_append, bind_of_ok ht, List.forM_cons, bind_of_ok ht',
        List.forM_nil, on_pure]
  rw [mapRows, bind_of_ok (on_get g)]
  exact hrows g.height (Nat.le_refl _)

/-! ## Cells that move on -/

/-- The cells moved on by a number of places, and dark ones came before them. -/
structure Lowered (g : Grid) (shift : Nat) (t : Grid) : Prop where
  width : t.width = g.width
  height : t.height = g.height
  size : t.cells.size = g.cells.size
  cell : ∀ k < g.cells.size, t.cells[k]? = if k < shift then some 0 else g.cells[k - shift]?

/-- All cells move down, and dark ones enter. -/
theorem lower_on (hroom : (g.cells.size : Int) ≤ room.bytes) {shift : Nat}
    (hshift : shift ≤ g.cells.size) :
    ∃ t, (lower room shift).on g = (.ok (), t) ∧ Lowered g shift t := by
  have hstaying : (g.staying shift).size = g.cells.size - shift := by
    rw [staying, if_pos hshift, Array.size_extract]
    omega
  obtain ⟨moved, hmoved, hwidth, hheight, hsize, hcell⟩ : ∃ moved : Grid,
      (splice room shift g.cells.size (g.staying shift)).on g = (.ok (), moved) ∧
        moved.width = g.width ∧ moved.height = g.height ∧ moved.cells.size = g.cells.size ∧
        ∀ k, moved.cells[k]? = if shift ≤ k ∧ k < g.cells.size then (g.staying shift)[k - shift]?
          else g.cells[k]? := by
    have hsize := size_spliced hshift (Nat.le_refl _) hstaying
    exact ⟨_, splice_of_le (by rw [hsize]; exact hroom), rfl, rfl, hsize,
      getElem?_spliced hshift (Nat.le_refl _) hstaying⟩
  have hdark : (dark room shift).on moved = _ := dark_of_le (by omega) moved
  have hzeros : (Array.replicate shift (0 : UInt8)).size = shift - 0 := Array.size_replicate
  have hstop : shift ≤ moved.cells.size := by omega
  have hlast := size_spliced (Nat.zero_le _) hstop hzeros
  let t : Grid := { moved with cells := moved.spliced 0 shift (Array.replicate shift 0) }
  refine ⟨t, ?_, hwidth, hheight, hlast.trans hsize, fun k hk => ?_⟩
  · rw [lower, bind_of_ok (on_get g), bind_of_ok hmoved, bind_of_ok hdark,
      splice_of_le (by rw [hlast, hsize]; exact hroom)]
  · refine (getElem?_spliced (Nat.zero_le _) hstop hzeros k).trans ?_
    by_cases hk' : k < shift
    · rw [if_pos ⟨Nat.zero_le _, hk'⟩, if_pos hk', Array.getElem?_replicate, if_pos (by omega)]
    · rw [if_neg (by omega), if_neg hk', hcell, if_pos (by omega), staying, if_pos hshift,
        Array.getElem?_extract, if_pos (by omega), Nat.zero_add]

end Grid

namespace Screen

variable {s : Screen} {room : Room}

open Attempt

/-- A host has room for the cells of a screen. -/
def Fits (s : Screen) (room : Room) : Prop := ((s.width * s.height : Nat) : Int) ≤ room.bytes

theorem Fits.cells (h : s.Fits room) : (s.grid.cells.size : Int) ≤ room.bytes := by
  rwa [size_cells_grid]

/-- A cell of a grid is the pixel at its column and row. -/
theorem getElem?_grid {X Y : Nat} (hX : X < s.width) (hY : Y < s.height) :
    s.grid.cells[Y * s.width + X]? = some (s.get X Y).toUInt8 := by
  rw [get_eq_getElem s hX hY (index_lt hX hY)]
  exact getElem?_cells_grid s ⟨_, index_lt hX hY⟩

theorem getElem?_row_grid {X Y : Nat} (hX : X < s.width) (hY : Y < s.height) :
    (s.grid.row Y)[X]? = some (s.get X Y).toUInt8 := by
  have hlt : Y * s.width + X < s.width * s.height := index_lt hX hY
  have hsize := s.size_cells_grid
  rw [Grid.row, Array.getElem?_extract]
  show (if X < min (Y * s.width + s.width) s.grid.cells.size - Y * s.width then
    s.grid.cells[Y * s.width + X]? else none) = _
  rw [if_pos (by omega), getElem?_grid hX hY]

/-- A grid that has the size of a screen and a cell for each of its pixels is that of the screen. -/
theorem eq_grid {t : Grid} (hwidth : t.width = s.width) (hheight : t.height = s.height)
    (hsize : t.cells.size = s.width * s.height)
    (hcell : ∀ X < s.width, ∀ Y < s.height,
      t.cells[Y * s.width + X]? = some (s.get X Y).toUInt8) : t = s.grid := by
  have hcells : t.cells = s.grid.cells := by
    refine Array.ext_getElem? fun k => ?_
    by_cases hk : k < s.width * s.height
    · have hX : k % s.width < s.width := Nat.mod_lt k s.width_pos
      have hY : k / s.width < s.height := Nat.div_lt_of_lt_mul hk
      have hsplit : k / s.width * s.width + k % s.width = k := Nat.div_add_mod' k s.width
      have hleft := hcell _ hX _ hY
      have hright := getElem?_grid hX hY
      rw [hsplit] at hleft hright
      rw [hleft, hright]
    · rw [Array.getElem?_eq_none (by omega),
        Array.getElem?_eq_none (by rw [size_cells_grid]; omega)]
  obtain ⟨width, height, width_pos, height_pos, cells⟩ := t
  cases hwidth
  cases hheight
  cases hcells
  rfl

/-! ## Scrolling the cells -/

theorem Fits.of_le (h : s.Fits room) {n : Nat} (hn : n ≤ s.width * s.height) :
    (n : Int) ≤ room.bytes := (Int.ofNat_le.2 hn).trans h

/-- Clearing the grid clears the screen. -/
theorem clear_grid (h : s.Fits room) : (Grid.clear room).on s.grid = (.ok (), s.clear.grid) := by
  have hdark := Grid.dark_of_le h.cells s.grid
  have hcells : s.grid.spliced 0 s.grid.cells.size (Array.replicate s.grid.cells.size 0) =
      Array.replicate (s.width * s.height) 0 := by
    simp [Grid.spliced, size_cells_grid]
  have hsplice : (Grid.splice room 0 s.grid.cells.size
      (Array.replicate s.grid.cells.size 0)).on s.grid = _ :=
    Grid.splice_of_le (by rw [hcells, Array.size_replicate]; exact h)
  rw [Grid.clear, bind_of_ok (on_get s.grid), bind_of_ok hdark, hsplice, hcells]
  refine congrArg (Prod.mk _) (eq_grid (s := s.clear) rfl rfl Array.size_replicate
    fun X hX Y hY => ?_)
  have hlt : Y * s.width + X < s.width * s.height := index_lt hX hY
  rw [clear, get_repaint]
  exact Array.getElem?_replicate.trans (if_pos hlt)

/-- Rows that are replaced in the cells make up another screen of the same size. -/
theorem mapRows_grid {s' : Screen} {move : Array UInt8 → Grid.Op (Array UInt8)}
    {f : Array UInt8 → Array UInt8} (h : s.Fits room) (hm : s.grid.Moves move f)
    (hwidth : s'.width = s.width) (hheight : s'.height = s.height)
    (hget : ∀ X < s.width, ∀ Y < s.height,
      (f (s.grid.row Y))[X]? = some (s'.get X Y).toUInt8) :
    (Grid.mapRows room move).on s.grid = (.ok (), s'.grid) := by
  obtain ⟨t, ht, hmoved⟩ := Grid.mapRows_on s.size_cells_grid h.cells hm
  refine ht.trans (congrArg (Prod.mk _) ?_)
  refine eq_grid (hmoved.width.trans hwidth.symm) (hmoved.height.trans hheight.symm) ?_ ?_
  · rw [hmoved.size, size_cells_grid, hwidth, hheight]
  · rw [hwidth, hheight]
    intro X hX Y hY
    exact (hmoved.cell X hX Y).trans ((if_pos hY).trans (hget X hX Y hY))

/-- A stretch of a row of a screen. -/
theorem getElem?_extract_row_grid {X Y k stop : Nat} (hX : k + X < s.width) (hstop : k + X < stop)
    (hY : Y < s.height) :
    ((s.grid.row Y).extract k stop)[X]? = some (s.get (k + X) Y).toUInt8 := by
  have hsize : (s.grid.row Y).size = s.width := Grid.size_row s.size_cells_grid hY
  rw [Array.getElem?_extract, if_pos (by omega), getElem?_row_grid hX hY, Int.natCast_add]

/-- The grid scrolls to the right as the screen does. -/
theorem scrollRight_grid (h : s.Fits room) (n : Int) :
    (Grid.scrollRight room n).on s.grid = (.ok (), (s.scrollRight n).grid) := by
  rw [Grid.scrollRight, bind_of_ok (on_get s.grid)]
  show (Grid.mapRows room fun row => do
    pure ((← Grid.dark room (min n.toNat s.width)) ++
      row.extract 0 (s.width - min n.toNat s.width))).on s.grid = _
  generalize hcolumns : min n.toNat s.width = columns
  have hle : columns ≤ s.width := by omega
  have hroom := h.of_le (hle.trans (Nat.le_mul_of_pos_right _ s.height_pos))
  refine mapRows_grid
    (f := fun row => Array.replicate columns 0 ++ row.extract 0 (s.width - columns)) h
    ⟨fun row t _ => ?_, fun row hrow => ?_⟩ rfl rfl fun X hX Y hY => ?_
  · rw [bind_of_ok (Grid.dark_of_le hroom t), on_pure]
  · have hrow : row.size = s.width := hrow
    show _ = s.width
    simp only [Array.size_append, Array.size_replicate, Array.size_extract]
    omega
  · rw [get_scrollRight s n hX hY, Array.getElem?_append, Array.size_replicate]
    by_cases hX' : X < columns
    · rw [if_pos hX', if_neg (by omega), Array.getElem?_replicate, if_pos hX']
      rfl
    · have hcolumn : (X : Int) - max n 0 = (0 : Nat) + (X - columns : Nat) := by omega
      rw [if_neg hX', if_pos (by omega), hcolumn,
        getElem?_extract_row_grid (by omega) (by omega) hY]

/-- It scrolls to the left as the screen does. -/
theorem scrollLeft_grid (h : s.Fits room) (n : Int) :
    (Grid.scrollLeft room n).on s.grid = (.ok (), (s.scrollLeft n).grid) := by
  rw [Grid.scrollLeft, bind_of_ok (on_get s.grid)]
  show (Grid.mapRows room fun row => do
    pure (row.extract (min n.toNat s.width) row.size ++
      (← Grid.dark room (min n.toNat s.width)))).on s.grid = _
  generalize hcolumns : min n.toNat s.width = columns
  have hle : columns ≤ s.width := by omega
  have hroom := h.of_le (hle.trans (Nat.le_mul_of_pos_right _ s.height_pos))
  refine mapRows_grid
    (f := fun row => row.extract columns row.size ++ Array.replicate columns 0) h
    ⟨fun row t _ => ?_, fun row hrow => ?_⟩ rfl rfl fun X hX Y hY => ?_
  · rw [bind_of_ok (Grid.dark_of_le hroom t), on_pure]
  · have hrow : row.size = s.width := hrow
    show _ = s.width
    simp only [Array.size_append, Array.size_replicate, Array.size_extract]
    omega
  · have hsize : (s.grid.row Y).size = s.width := Grid.size_row s.size_cells_grid hY
    rw [get_scrollLeft s n hX hY, Array.getElem?_append, Array.size_extract, hsize]
    by_cases hX' : X + columns < s.width
    · have hcolumn : (X : Int) + max n 0 = (columns : Nat) + (X : Nat) := by omega
      rw [if_pos (by omega), if_pos (by omega), hcolumn,
        getElem?_extract_row_grid (by omega) (by omega) hY]
    · rw [if_neg (by omega), if_neg (by omega), Array.getElem?_replicate, if_pos (by omega)]
      rfl

/-- The rows that stay move down by whole rows of cells. -/
theorem scrollDown_grid (h : s.Fits room) (n : Int) :
    (Grid.scrollDown room n).on s.grid = (.ok (), (s.scrollDown n).grid) := by
  have hlength := s.size_cells_grid
  rw [Grid.scrollDown, bind_of_ok (on_get s.grid)]
  show (if min n.toNat s.height = 0 then pure () else
    Grid.lower room (min n.toNat s.height * s.width) : Grid.Op Unit).on s.grid = _
  generalize hcount : min n.toNat s.height = count
  by_cases hnone : count = 0
  · have hpos := s.height_pos
    rw [if_pos hnone, on_pure]
    refine congrArg (Prod.mk _) (eq_grid (s := s.scrollDown n) rfl rfl hlength fun X hX Y hY => ?_)
    have hrow : (Y : Int) - max n 0 = Y := by omega
    rw [get_scrollDown s n hX hY, if_pos (by omega), hrow]
    exact getElem?_grid hX hY
  have hshift : count * s.width ≤ s.grid.cells.size := by
    rw [hlength, Nat.mul_comm s.width]
    exact Nat.mul_le_mul_right s.width (by omega)
  obtain ⟨t, ht, hlowered⟩ := Grid.lower_on h.cells hshift
  rw [if_neg hnone, ht]
  refine congrArg (Prod.mk _) (eq_grid (s := s.scrollDown n) hlowered.width hlowered.height
    (hlowered.size.trans hlength) fun X hX Y hY => ?_)
  have hX : X < s.width := hX
  have hY : Y < s.height := hY
  have hindex : Y * s.width + X < s.grid.cells.size := hlength ▸ index_lt hX hY
  refine (hlowered.cell _ hindex).trans ?_
  rw [get_scrollDown s n hX hY]
  by_cases hY' : Y < count
  · rw [if_pos ((index_lt_mul_iff hX count).2 hY'), if_neg (by omega)]
    rfl
  · have hlt : ¬ Y * s.width + X < count * s.width := fun hlt =>
      hY' ((index_lt_mul_iff hX count).1 hlt)
    have hsource : Y * s.width + X - count * s.width = (Y - count) * s.width + X := by
      have := Nat.mul_le_mul_right s.width (Nat.le_of_not_lt hY')
      rw [Nat.sub_mul]
      omega
    have hrow : (Y : Int) - max n 0 = (Y - count : Nat) := by omega
    rw [if_neg hlt, if_pos (by omega), hrow, hsource, getElem?_grid hX (by omega)]

end Screen

end SuperChip
