import SuperChip.Proofs.Screen.Drawing

/-!
# What scrolling does to a screen

The pixels of a screen stand in one row of cells, and scrolling moves slices of that row. That no
pixel comes to stand in another line of the picture is a matter of the bounds of these slices. Here
scrolling is told pixel by pixel, and then as moving the picture by a vector, so that the laws of
scrolling are those of vectors.

- `Screen.get_eq_getElem`, `Screen.getElem_line`, `Screen.get_mapLines`: where a pixel stands.
- `Screen.get_scrollDown`, `get_scrollRight`, `get_scrollLeft`: the pixels of a scrolled screen.
- `Screen.shows`, `Screen.moved`: the picture moved by a vector; `moved_moved` adds two vectors that
  point into one quadrant.
- `scrolling_moves_picture`: **scrolling moves the picture and loses what leaves it**, with the laws
  for two scrolls in a row.

About `Framebuffer.scroll_down`, `scroll_right` and `scroll_left`.
-/

namespace SuperChip.Screen

variable {s t : Screen}

/-! ## Where a pixel stands -/

/-- The cells of a row stand between two multiples of the width. -/
theorem index_lt_mul_iff {a b w : Nat} (ha : a < w) (k : Nat) : b * w + a < k * w ↔ b < k := by
  rw [← Nat.div_lt_iff_lt_mul (Nat.zero_lt_of_lt ha), index_div ha]

/-- A column of the screen names itself. -/
theorem val_column_natCast (s : Screen) {X : Nat} (hX : X < s.width) : (s.column X).val = X := by
  have hmod := s.val_column X
  rw [← Int.natCast_emod, Nat.mod_eq_of_lt hX] at hmod
  exact Int.ofNat_inj.1 hmod

/-- So does a row. -/
theorem val_row_natCast (s : Screen) {Y : Nat} (hY : Y < s.height) : (s.row Y).val = Y := by
  have hmod := s.val_row Y
  rw [← Int.natCast_emod, Nat.mod_eq_of_lt hY] at hmod
  exact Int.ofNat_inj.1 hmod

theorem get_eq_getElem (s : Screen) {X Y : Nat} (hX : X < s.width) (hY : Y < s.height)
    (hindex : Y * s.width + X < s.width * s.height) :
    s.get X Y = s.pixels[Y * s.width + X] := by
  simp only [get, cell, val_column_natCast s hX, val_row_natCast s hY]

theorem getElem_line (s : Screen) (y : Fin s.height) {X : Nat} (hX : X < s.width) :
    (s.line y)[X] = s.get X y.val := by
  rw [get_eq_getElem s hX y.isLt (index_lt hX y.isLt)]
  simp [line]

/-- A pixel of a picture whose rows are made anew stands in the new row. -/
theorem get_mapLines (s : Screen) (move : Vector Bool s.width → Vector Bool s.width) {X Y : Nat}
    (hX : X < s.width) (hY : Y < s.height) :
    (s.mapLines move).get X Y = (move (s.line ⟨Y, hY⟩))[X] := by
  rw [get_eq_getElem (s.mapLines move) hX hY (index_lt hX hY)]
  simp only [mapLines, Vector.getElem_cast, Vector.getElem_flatten, Vector.getElem_ofFn,
    index_div hX, index_mod hX]

/-! ## The pixels of a scrolled screen -/

variable {X Y : Nat}

/-- Scrolled down, every row shows the one so many rows above it. -/
theorem get_scrollDown (s : Screen) (n : Int) (hX : X < s.width) (hY : Y < s.height) :
    (s.scrollDown n).get X Y = if max n 0 ≤ Y then s.get X (Y - max n 0) else false := by
  rw [get_eq_getElem (s.scrollDown n) hX hY (index_lt hX hY)]
  simp only [scrollDown, Vector.getElem_cast, Vector.getElem_append, Vector.getElem_replicate,
    Vector.getElem_extract, index_lt_mul_iff hX]
  by_cases h : max n 0 ≤ Y
  · have hle : n.toNat ≤ Y := by omega
    have hall : min n.toNat s.height = n.toNat := Nat.min_eq_left (by omega)
    have hrow : (Y : Int) - max n 0 = (Y - n.toNat : Nat) := by omega
    have hindex : 0 + (Y * s.width + X - n.toNat * s.width) = (Y - n.toNat) * s.width + X := by
      have := Nat.mul_le_mul_right s.width hle
      rw [Nat.sub_mul]
      omega
    have hlt : Y - n.toNat < s.height := Nat.lt_of_le_of_lt (Nat.sub_le _ _) hY
    rw [if_pos h, hrow, get_eq_getElem s hX hlt (index_lt hX hlt)]
    simp only [hall, hindex, dif_neg (Nat.not_lt.2 hle)]
  · rw [if_neg h, dif_pos (by omega)]

/-- Scrolled to the right, every column shows the one so many columns to its left. -/
theorem get_scrollRight (s : Screen) (n : Int) (hX : X < s.width) (hY : Y < s.height) :
    (s.scrollRight n).get X Y = if max n 0 ≤ X then s.get (X - max n 0) Y else false := by
  rw [scrollRight, get_mapLines s _ hX hY]
  simp only [Vector.getElem_cast, Vector.getElem_append, Vector.getElem_replicate,
    Vector.getElem_extract, getElem_line]
  by_cases h : max n 0 ≤ X
  · have hle : n.toNat ≤ X := by omega
    have hall : min n.toNat s.width = n.toNat := Nat.min_eq_left (by omega)
    have hcolumn : (X : Int) - max n 0 = (X - n.toNat : Nat) := by omega
    simp only [hall, Nat.zero_add, if_pos h, hcolumn, dif_neg (Nat.not_lt.2 hle)]
  · rw [if_neg h, dif_pos (by omega)]

/-- Scrolled to the left, every column shows the one so many columns to its right. -/
theorem get_scrollLeft (s : Screen) (n : Int) (hX : X < s.width) (hY : Y < s.height) :
    (s.scrollLeft n).get X Y =
      if X + max n 0 < s.width then s.get (X + max n 0) Y else false := by
  rw [scrollLeft, get_mapLines s _ hX hY]
  simp only [Vector.getElem_cast, Vector.getElem_append, Vector.getElem_replicate,
    Vector.getElem_extract, getElem_line]
  by_cases h : X + max n 0 < s.width
  · have hlt : X + n.toNat < s.width := by omega
    have hall : min n.toNat s.width = n.toNat := Nat.min_eq_left (by omega)
    have hcolumn : (X : Int) + max n 0 = (n.toNat + X : Nat) := by omega
    rw [if_pos h, hcolumn]
    simp only [hall, Nat.min_self, dif_pos (Nat.lt_sub_of_add_lt hlt)]
  · rw [if_neg h, dif_neg (by omega)]

/-! ## Moving by a vector -/

/-- Whether a point of the plane lies inside the grid. -/
def Inside (s : Screen) (x y : Int) : Prop := 0 ≤ x ∧ x < s.width ∧ 0 ≤ y ∧ y < s.height

instance (s : Screen) (x y : Int) : Decidable (s.Inside x y) :=
  inferInstanceAs (Decidable (_ ∧ _ ∧ _ ∧ _))

/-- Whether a point of the plane is a lit pixel. Outside of the grid there is none. -/
def shows (s : Screen) (x y : Int) : Bool := decide (s.Inside x y) && s.get x y

/-- The picture moved by a vector. What leaves the grid is lost, and what enters is dark. -/
def moved (s : Screen) (dx dy : Int) : Screen := s.repaint fun X Y => s.shows (X - dx) (Y - dy)

theorem shows_natCast (s : Screen) (hX : X < s.width) (hY : Y < s.height) :
    s.shows X Y = s.get X Y := by
  have hin : s.Inside X Y := ⟨by omega, by omega, by omega, by omega⟩
  simp [shows, hin]

/-- Outside the screen nothing is lit. -/
theorem shows_of_not_inside {x y : Int} (h : ¬ s.Inside x y) : s.shows x y = false := by
  simp [shows, h]

/-- A moved picture shows what stood where it came from. -/
theorem get_moved (s : Screen) (dx dy : Int) (hX : X < s.width) (hY : Y < s.height) :
    (s.moved dx dy).get X Y = s.shows (X - dx) (Y - dy) := by
  rw [moved, get_repaint, val_column_natCast s hX, val_row_natCast s hY]

/-- A point of the moved picture is the one that came there. -/
theorem shows_moved (s : Screen) (dx dy x y : Int) :
    (s.moved dx dy).shows x y = (decide (s.Inside x y) && s.shows (x - dx) (y - dy)) := by
  by_cases h : s.Inside x y
  · obtain ⟨hx, hx', hy, hy'⟩ := h
    obtain ⟨X, rfl⟩ := Int.eq_ofNat_of_zero_le hx
    obtain ⟨Y, rfl⟩ := Int.eq_ofNat_of_zero_le hy
    have hX : X < s.width := Int.ofNat_lt.1 hx'
    have hY : Y < s.height := Int.ofNat_lt.1 hy'
    have hin : s.Inside X Y := ⟨hx, hx', hy, hy'⟩
    rw [shows_natCast (s.moved dx dy) hX hY, get_moved s dx dy hX hY, decide_eq_true hin,
      Bool.true_and]
  · rw [shows_of_not_inside (show ¬ (s.moved dx dy).Inside x y from h), decide_eq_false h,
      Bool.false_and]

/-- Screens of one size that show the same inside the grid are the same. -/
theorem ext_pixels (hwidth : s.width = t.width) (hheight : s.height = t.height)
    (hget : ∀ X Y : Nat, X < s.width → Y < s.height → s.get X Y = t.get X Y) : s = t := by
  apply ext_get hwidth hheight
  intro x y
  have hcolumn : (s.column x).val = (t.column x).val := by simp only [column, hwidth]
  have hrow : (s.row y).val = (t.row y).val := by simp only [row, hheight]
  have hcell := hget (s.column x).val (s.row y).val (s.column x).isLt (s.row y).isLt
  rw [get_column_row, hcolumn, hrow, get_column_row] at hcell
  exact hcell

/-- Two distances that do not point against each other. -/
def Aligned (d d' : Int) : Prop := 0 ≤ d ∧ 0 ≤ d' ∨ d ≤ 0 ∧ d' ≤ 0

/-- **The picture that is moved by two vectors of one quadrant is moved by their sum.** A point that
stays inside until the end has not left in between. -/
theorem moved_moved (s : Screen) {dx dy dx' dy' : Int} (hx : Aligned dx dx') (hy : Aligned dy dy') :
    (s.moved dx dy).moved dx' dy' = s.moved (dx + dx') (dy + dy') := by
  refine ext_pixels rfl rfl ?_
  intro X Y hX hY
  have hX' : X < s.width := hX
  have hY' : Y < s.height := hY
  have hxsum : (X : Int) - dx' - dx = X - (dx + dx') := by omega
  have hysum : (Y : Int) - dy' - dy = Y - (dy + dy') := by omega
  rw [get_moved (s.moved dx dy) dx' dy' hX hY, shows_moved, get_moved s _ _ hX hY, hxsum, hysum]
  by_cases hin : s.Inside (X - (dx + dx')) (Y - (dy + dy'))
  · have hbetween : s.Inside (X - dx') (Y - dy') := by
      unfold Inside Aligned at *
      omega
    rw [decide_eq_true hbetween, Bool.true_and]
  · rw [shows_of_not_inside hin, Bool.and_false]

/-- Moving to the side and moving down can be done in either order. -/
theorem moved_zero_comm (s : Screen) (dx dy : Int) :
    (s.moved dx 0).moved 0 dy = (s.moved 0 dy).moved dx 0 := by
  have hx : Aligned dx 0 := by unfold Aligned; omega
  have hx' : Aligned 0 dx := by unfold Aligned; omega
  have hy : Aligned 0 dy := by unfold Aligned; omega
  have hy' : Aligned dy 0 := by unfold Aligned; omega
  rw [moved_moved s hx hy, moved_moved s hx' hy', Int.add_comm dx, Int.add_comm dy]

/-! ## Scrolling is moving -/

/-- Scrolling down moves the picture down, by an amount above zero only. -/
theorem scrollDown_eq_moved (s : Screen) (n : Int) : s.scrollDown n = s.moved 0 (max n 0) := by
  refine ext_pixels rfl rfl ?_
  intro X Y hX hY
  have hY' : Y < s.height := hY
  rw [get_scrollDown s n hX hY, get_moved s _ _ hX hY, Int.sub_zero]
  by_cases h : max n 0 ≤ Y
  · have hrow : (Y : Int) - max n 0 = (Y - n.toNat : Nat) := by omega
    rw [if_pos h, hrow, shows_natCast s hX (by omega)]
  · rw [if_neg h, shows_of_not_inside fun hin => h (Int.sub_nonneg.1 hin.2.2.1)]

/-- Scrolling to the right moves it to the right. -/
theorem scrollRight_eq_moved (s : Screen) (n : Int) : s.scrollRight n = s.moved (max n 0) 0 := by
  refine ext_pixels rfl rfl ?_
  intro X Y hX hY
  have hX' : X < s.width := hX
  rw [get_scrollRight s n hX hY, get_moved s _ _ hX hY, Int.sub_zero]
  by_cases h : max n 0 ≤ X
  · have hcolumn : (X : Int) - max n 0 = (X - n.toNat : Nat) := by omega
    rw [if_pos h, hcolumn, shows_natCast s (by omega) hY]
  · rw [if_neg h, shows_of_not_inside fun hin => h (Int.sub_nonneg.1 hin.1)]

/-- Scrolling to the left moves it to the left. -/
theorem scrollLeft_eq_moved (s : Screen) (n : Int) : s.scrollLeft n = s.moved (-max n 0) 0 := by
  refine ext_pixels rfl rfl ?_
  intro X Y hX hY
  rw [get_scrollLeft s n hX hY, get_moved s _ _ hX hY, Int.sub_zero, Int.sub_neg]
  by_cases h : X + max n 0 < s.width
  · have hcolumn : (X : Int) + max n 0 = (X + n.toNat : Nat) := by omega
    rw [if_pos h, hcolumn, shows_natCast s (by omega) hY]
  · rw [if_neg h, shows_of_not_inside fun hin => h hin.2.1]

/-! ## Two scrolls in a row -/

section TwoScrolls

variable {a b : Int}

/-- Scrolls down add up. -/
theorem scrollDown_scrollDown (s : Screen) (ha : 0 ≤ a) (hb : 0 ≤ b) :
    (s.scrollDown a).scrollDown b = s.scrollDown (a + b) := by
  simp only [scrollDown_eq_moved, Int.max_eq_left ha, Int.max_eq_left hb,
    Int.max_eq_left (Int.add_nonneg ha hb)]
  exact moved_moved s (.inl ⟨by decide, by decide⟩) (.inl ⟨ha, hb⟩)

theorem scrollRight_scrollRight (s : Screen) (ha : 0 ≤ a) (hb : 0 ≤ b) :
    (s.scrollRight a).scrollRight b = s.scrollRight (a + b) := by
  simp only [scrollRight_eq_moved, Int.max_eq_left ha, Int.max_eq_left hb,
    Int.max_eq_left (Int.add_nonneg ha hb)]
  exact moved_moved s (.inl ⟨ha, hb⟩) (.inl ⟨by decide, by decide⟩)

theorem scrollLeft_scrollLeft (s : Screen) (ha : 0 ≤ a) (hb : 0 ≤ b) :
    (s.scrollLeft a).scrollLeft b = s.scrollLeft (a + b) := by
  simp only [scrollLeft_eq_moved, Int.max_eq_left ha, Int.max_eq_left hb,
    Int.max_eq_left (Int.add_nonneg ha hb), Int.neg_add]
  exact moved_moved s (.inr ⟨by omega, by omega⟩) (.inl ⟨by decide, by decide⟩)

/-- The picture with its last columns dark. -/
def darkenLast (s : Screen) (columns : Nat) : Screen :=
  s.repaint fun X Y => decide (X + columns < s.width) && s.get X Y

/-- What scrolling right takes away does not come back. -/
theorem scrollLeft_scrollRight (s : Screen) (a : Int) :
    (s.scrollRight a).scrollLeft a = s.darkenLast (min a.toNat s.width) := by
  refine ext_pixels rfl rfl ?_
  intro X Y hX hY
  have hX' : X < s.width := hX
  have hwidth : (s.scrollRight a).width = s.width := rfl
  rw [get_scrollLeft (s.scrollRight a) a hX hY, darkenLast, get_repaint, val_column_natCast s hX,
    val_row_natCast s hY, hwidth]
  by_cases h : X + max a 0 < s.width
  · have hcolumn : (X : Int) + max a 0 = (X + a.toNat : Nat) := by omega
    have hback : ((X + a.toNat : Nat) : Int) - max a 0 = X := by omega
    have hkept : X + min a.toNat s.width < s.width := by omega
    rw [if_pos h, hcolumn, get_scrollRight s a (by omega) hY, if_pos (by omega), hback,
      decide_eq_true hkept, Bool.true_and]
  · have hlost : ¬ X + min a.toNat s.width < s.width := by omega
    rw [if_neg h, decide_eq_false hlost, Bool.false_and]

end TwoScrolls

/-! ## Everything together -/

/-- Where each pixel of a scrolled screen comes from. What enters is dark, and no pixel changes its
row when the picture is scrolled sideways. -/
structure Scrolls (s : Screen) (n : Int) : Prop where
  down : ∀ X Y : Nat, X < s.width → Y < s.height →
    (s.scrollDown n).get X Y = if max n 0 ≤ Y then s.get X (Y - max n 0) else false
  right : ∀ X Y : Nat, X < s.width → Y < s.height →
    (s.scrollRight n).get X Y = if max n 0 ≤ X then s.get (X - max n 0) Y else false
  left : ∀ X Y : Nat, X < s.width → Y < s.height →
    (s.scrollLeft n).get X Y = if X + max n 0 < s.width then s.get (X + max n 0) Y else false
  size : ∀ t ∈ [s.scrollDown n, s.scrollRight n, s.scrollLeft n],
    t.width = s.width ∧ t.height = s.height

/-- The laws of two scrolls in a row. -/
structure ScrollLaws (s : Screen) (a b : Int) : Prop where
  down : 0 ≤ a → 0 ≤ b → (s.scrollDown a).scrollDown b = s.scrollDown (a + b)
  right : 0 ≤ a → 0 ≤ b → (s.scrollRight a).scrollRight b = s.scrollRight (a + b)
  left : 0 ≤ a → 0 ≤ b → (s.scrollLeft a).scrollLeft b = s.scrollLeft (a + b)
  down_right : (s.scrollRight b).scrollDown a = (s.scrollDown a).scrollRight b
  down_left : (s.scrollLeft b).scrollDown a = (s.scrollDown a).scrollLeft b
  back : (s.scrollRight a).scrollLeft a = s.darkenLast (min a.toNat s.width)

/-- **Scrolling moves the picture and loses what leaves it.** -/
theorem scrolling_moves_picture (s : Screen) :
    (∀ n : Int, s.Scrolls n) ∧ ∀ a b : Int, s.ScrollLaws a b := by
  constructor
  · intro n
    refine ⟨fun X Y => get_scrollDown s n, fun X Y => get_scrollRight s n,
      fun X Y => get_scrollLeft s n, ?_⟩
    intro t ht
    simp only [List.mem_cons, List.not_mem_nil, or_false] at ht
    rcases ht with rfl | rfl | rfl <;> exact ⟨rfl, rfl⟩
  · intro a b
    refine ⟨scrollDown_scrollDown s, scrollRight_scrollRight s, scrollLeft_scrollLeft s, ?_, ?_,
      scrollLeft_scrollRight s a⟩
    · simp only [scrollDown_eq_moved, scrollRight_eq_moved, moved_zero_comm]
    · simp only [scrollDown_eq_moved, scrollLeft_eq_moved, moved_zero_comm]

/-- The last pixel of the first row does not come to stand at the start of the second one. -/
theorem scrolling_moves_last_pixel :
    let s := low.set 63 0 true
    (s.scrollRight 1).get (0 : Nat) (1 : Nat) = false ∧
      (s.scrollLeft 63).get (0 : Nat) (0 : Nat) = true ∧
      ((s.scrollDown 5).scrollDown 26).get (63 : Nat) (31 : Nat) = true := by
  intro s
  have hlit : s.get 63 0 = true := by rw [get_set, if_pos rfl]
  obtain ⟨hpixels, hlaws⟩ := scrolling_moves_picture s
  refine ⟨?_, ?_, ?_⟩
  · rw [(hpixels 1).right 0 1 (by decide) (by decide), if_neg (by decide)]
  · rw [(hpixels 63).left 0 0 (by decide) (by decide), if_pos (by decide)]
    exact hlit
  · rw [(hlaws 5 26).down (by decide) (by decide),
      (hpixels (5 + 26)).down 63 31 (by decide) (by decide), if_pos (by decide)]
    exact hlit

end SuperChip.Screen
