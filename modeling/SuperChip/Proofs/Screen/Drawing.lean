import Mathlib.Data.Finset.Card
import Mathlib.Data.Finset.Prod
import Mathlib.Data.Int.Bitwise
import Mathlib.Data.List.Nodup
import SuperChip.Proofs.Screen.Cells

/-!
# What drawing does to a screen

A sprite may be larger than the screen that it is drawn on, and then several of its bits fall onto
one pixel. Pixels are turned over one after the other, so that a bit can meet a pixel which an
earlier bit of the same sprite has lit.

- `Screen.ext_get`: screens of one size that show the same are the same.
- `Screen.mentions`: how often a list of pixels names one of them; `get_toggleAll` and
  `hit_toggleAll_iff` are what turning over a list of pixels does, in terms of these numbers.
- `Sprite.mem_points`, `Sprite.nodup_points`: the set bits of a sprite, each of which stands in the
  list of its points once.
- `Screen.toggleAll_grid`, `Screen.draw_grid`: what drawing does to the cells of a screen.
- `Screen.covering`: the set bits of a sprite that fall onto a pixel.
- `draw_turns_covered`: **drawing turns a pixel over once for each set bit that falls onto it**.

About `Framebuffer.draw_sprite` and `xor_pixel`.
-/

namespace SuperChip

/-! ## The set bits of a sprite -/

namespace Sprite

/-- The bits of a row are those of its two's complement, the highest one leftmost. -/
theorem bit_eq_testBit (width : Nat) (row : Int) (column : Nat) :
    bit width row column = row.testBit (width - 1 - column) := by
  unfold bit
  cases row with
  | ofNat n =>
    have hshift :
        Int.ofNat n >>> (width - 1 - column) = ((n >>> (width - 1 - column) : Nat) : Int) :=
      rfl
    rw [hshift, Int.testBit, Nat.testBit_eq_decide_div_mod_eq, Nat.shiftRight_eq_div_pow,
      Bool.eq_iff_iff, beq_iff_eq, decide_eq_true_iff]
    omega
  | negSucc n =>
    rw [Int.negSucc_shiftRight, Int.testBit, Nat.testBit_eq_decide_div_mod_eq,
      Nat.shiftRight_eq_div_pow, Bool.eq_iff_iff, beq_iff_eq, Bool.not_eq_true',
      decide_eq_false_iff_not]
    omega

variable {sprite : Sprite}

/-- The points of a sprite are its set bits. -/
theorem mem_points {point : Nat × Nat} :
    point ∈ sprite.points ↔
      (point.1 < sprite.width ∧ point.2 < sprite.rows.length) ∧
        (sprite.rows.getD point.2 0).testBit (sprite.width - 1 - point.1) = true := by
  obtain ⟨column, r⟩ := point
  simp only [points, columns, List.mem_flatMap, List.mem_map, List.mem_filter, List.mem_range,
    Prod.mk.injEq, bit_eq_testBit]
  constructor
  · rintro ⟨⟨row, k⟩, hrow, column', ⟨hcolumn, hbit⟩, rfl, rfl⟩
    have hget := List.mk_mem_zipIdx_iff_getElem?.1 hrow
    have hlt : k < sprite.rows.length := (List.getElem?_eq_some_iff.1 hget).1
    refine ⟨⟨hcolumn, hlt⟩, ?_⟩
    rw [List.getD_eq_getElem?_getD, hget]
    exact hbit
  · rintro ⟨⟨hcolumn, hlt⟩, hbit⟩
    refine ⟨(sprite.rows[r], r), ?_, column, ⟨hcolumn, ?_⟩, rfl, rfl⟩
    · exact List.mk_mem_zipIdx_iff_getElem?.2 (List.getElem?_eq_getElem hlt)
    · rwa [List.getD_eq_getElem?_getD, List.getElem?_eq_getElem hlt] at hbit

/-- No point is drawn twice. -/
theorem nodup_points : sprite.points.Nodup := by
  refine List.nodup_flatMap.2 ⟨fun row _ => ?_, ?_⟩
  · have hcolumns : (columns sprite.width row.1).Nodup := List.nodup_range.filter _
    exact hcolumns.map fun a b h => (Prod.mk.inj h).1
  · -- the points of different rows differ in their row
    have hrows : (sprite.rows.zipIdx.map Prod.snd).Nodup := by
      rw [List.zipIdx_map_snd]
      exact List.nodup_range'
    refine (List.pairwise_map.1 hrows).imp fun {a b} hab => ?_
    rintro point ha hb
    obtain ⟨_, _, rfl⟩ := List.mem_map.1 ha
    obtain ⟨_, _, h⟩ := List.mem_map.1 hb
    exact hab (Prod.mk.inj h).2.symm

end Sprite

namespace Screen

variable (s : Screen)

/-! ## Pixels by their numbers -/

/-- Two pairs of integers name one pixel exactly if they agree modulo the size. -/
theorem cell_eq_iff_emod {x y x' y' : Int} :
    s.cell x y = s.cell x' y' ↔ x % s.width = x' % s.width ∧ y % s.height = y' % s.height := by
  have hw : (0 : Int) < s.width := Int.natCast_pos.2 s.width_pos
  have hh : (0 : Int) < s.height := Int.natCast_pos.2 s.height_pos
  have hx := Int.emod_nonneg x (Int.ne_of_gt hw)
  have hx' := Int.emod_nonneg x' (Int.ne_of_gt hw)
  have hy := Int.emod_nonneg y (Int.ne_of_gt hh)
  have hy' := Int.emod_nonneg y' (Int.ne_of_gt hh)
  rw [cell_eq_iff, column, column, row, row, Fin.mk.injEq, Fin.mk.injEq]
  omega

variable {s} in
theorem get_of_cell_eq {x y x' y' : Int} (h : s.cell x y = s.cell x' y') :
    s.get x y = s.get x' y' := by
  simp only [get, h]

/-- Every pair of integers names a pixel, by a column and a row inside the grid. -/
theorem val_column (x : Int) : ((s.column x).val : Int) = x % s.width :=
  Int.toNat_of_nonneg (Int.emod_nonneg x (Int.ne_of_gt (Int.natCast_pos.2 s.width_pos)))

theorem val_row (y : Int) : ((s.row y).val : Int) = y % s.height :=
  Int.toNat_of_nonneg (Int.emod_nonneg y (Int.ne_of_gt (Int.natCast_pos.2 s.height_pos)))

theorem get_column_row (x y : Int) : s.get (s.column x).val (s.row y).val = s.get x y := by
  have hcell : s.cell (s.column x).val (s.row y).val = s.cell x y := by
    rw [cell_eq_iff_emod, val_column, val_row, Int.emod_emod, Int.emod_emod]
    exact ⟨rfl, rfl⟩
  exact get_of_cell_eq hcell

/-- Screens of one size that show the same are the same. -/
theorem ext_get {s t : Screen} (hwidth : s.width = t.width) (hheight : s.height = t.height)
    (hget : ∀ x y, s.get x y = t.get x y) : s = t := by
  obtain ⟨w, h, hw, hh, pixels⟩ := s
  obtain ⟨w', h', hw', hh', pixels'⟩ := t
  obtain rfl : w = w' := hwidth
  obtain rfl : h = h' := hheight
  congr 1
  refine Vector.ext fun k hk => ?_
  -- a place in the store is the pixel at its column and its row
  have hrow : k / w < h := Nat.div_lt_of_lt_mul hk
  have hcell : ∀ pixels,
      ((Screen.mk w h hw hh pixels).cell (k % w : Nat) (k / w : Nat)).val = k := by
    intro pixels
    have hx : ((k % w : Nat) : Int) % w = (k % w : Nat) :=
      Int.emod_eq_of_lt (Int.natCast_nonneg _) (Int.ofNat_lt.2 (Nat.mod_lt k hw))
    have hy : ((k / w : Nat) : Int) % h = (k / w : Nat) :=
      Int.emod_eq_of_lt (Int.natCast_nonneg _) (Int.ofNat_lt.2 hrow)
    simp only [cell, column, row, hx, hy, Int.toNat_natCast]
    rw [Nat.mul_comm]
    exact Nat.div_add_mod k w
  have hk' := hget (k % w : Nat) (k / w : Nat)
  simpa only [get, hcell] using hk'

/-! ## Turning over one pixel after the other -/

theorem get_toggle (x y x' y' : Int) :
    (s.toggle x y).get x' y' =
      if x % s.width = x' % s.width ∧ y % s.height = y' % s.height then !s.get x' y'
      else s.get x' y' := by
  rw [toggle, get_set]
  by_cases h : s.cell x y = s.cell x' y'
  · rw [if_pos h, if_pos (s.cell_eq_iff_emod.1 h), get_of_cell_eq h]
  · rw [if_neg h, if_neg (mt s.cell_eq_iff_emod.2 h)]

/-- How often a list of pixels names the one at column `x` and row `y`. -/
def mentions (points : List (Int × Int)) (x y : Int) : Nat :=
  points.countP fun p => p.1 % s.width = x % s.width ∧ p.2 % s.height = y % s.height

theorem mentions_column_row (points : List (Int × Int)) (x y : Int) :
    s.mentions points (s.column x).val (s.row y).val = s.mentions points x y := by
  simp only [mentions, val_column, val_row, Int.emod_emod]

theorem mentions_cons (p : Int × Int) (points : List (Int × Int)) (x y : Int) :
    s.mentions (p :: points) x y =
      s.mentions points x y +
        if p.1 % s.width = x % s.width ∧ p.2 % s.height = y % s.height then 1 else 0 := by
  simp only [mentions, List.countP_cons, decide_eq_true_eq]

/-- What was met is only added to. -/
theorem foldl_touch (points : List (Int × Int)) (hit : Bool) :
    points.foldl touch (s, hit) = ((s.toggleAll points).1, hit || (s.toggleAll points).2) := by
  unfold toggleAll
  induction points generalizing s hit with
  | nil => simp
  | cons p points ih =>
    simp only [List.foldl_cons, touch]
    rw [ih, ih _ (false || s.get p.1 p.2)]
    simp [Bool.or_assoc]

theorem toggleAll_cons (p : Int × Int) (points : List (Int × Int)) :
    s.toggleAll (p :: points) =
      (((s.toggle p.1 p.2).toggleAll points).1,
        s.get p.1 p.2 || ((s.toggle p.1 p.2).toggleAll points).2) := by
  rw [toggleAll, List.foldl_cons]
  exact foldl_touch (s.toggle p.1 p.2) points (s.get p.1 p.2)

/-- A pixel is turned over as often as it is listed. -/
theorem get_toggleAll (points : List (Int × Int)) (x y : Int) :
    (s.toggleAll points).1.get x y =
      (s.get x y ^^ decide (s.mentions points x y % 2 = 1)) := by
  induction points generalizing s with
  | nil => simp [toggleAll, mentions]
  | cons p points ih =>
    have hsame : (s.toggle p.1 p.2).mentions points x y = s.mentions points x y := rfl
    rw [toggleAll_cons, ih, hsame, get_toggle, mentions_cons]
    by_cases h : p.1 % s.width = x % s.width ∧ p.2 % s.height = y % s.height
    · rw [if_pos h, if_pos h]
      obtain hm | hm := Nat.mod_two_eq_zero_or_one (s.mentions points x y)
      · simp [Nat.add_mod, hm]
      · simp [Nat.add_mod, hm]
    · rw [if_neg h, if_neg h, Nat.add_zero]

/-- A lit pixel is met if one is listed that was lit, or if one is listed twice: of two times one
finds it lit. -/
theorem hit_toggleAll_iff (points : List (Int × Int)) :
    (s.toggleAll points).2 = true ↔
      ∃ x y, 1 ≤ s.mentions points x y ∧ s.get x y = true ∨ 2 ≤ s.mentions points x y := by
  induction points generalizing s with
  | nil => simp [toggleAll, mentions]
  | cons p points ih =>
    have hsame : ∀ x y, (s.toggle p.1 p.2).mentions points x y = s.mentions points x y :=
      fun x y => rfl
    rw [toggleAll_cons, Bool.or_eq_true, ih]
    simp only [hsame, mentions_cons, get_toggle]
    constructor
    · rintro (hlit | ⟨x, y, h⟩)
      · exact ⟨p.1, p.2, .inl ⟨by simp, hlit⟩⟩
      · refine ⟨x, y, ?_⟩
        by_cases hcell : p.1 % s.width = x % s.width ∧ p.2 % s.height = y % s.height
        · simp only [if_pos hcell] at h ⊢
          omega
        · simp only [if_neg hcell, Nat.add_zero] at h ⊢
          exact h
    · rintro ⟨x, y, h⟩
      by_cases hcell : p.1 % s.width = x % s.width ∧ p.2 % s.height = y % s.height
      · have hget : s.get p.1 p.2 = s.get x y := get_of_cell_eq (s.cell_eq_iff_emod.2 hcell)
        cases hlit : s.get x y with
        | true => exact .inl (hget.trans hlit)
        | false =>
          -- the second time the pixel is lit, since the first time it was not
          have htwice : 2 ≤ s.mentions points x y + 1 := by simpa [hcell, hlit] using h
          exact .inr ⟨x, y, .inl ⟨by omega, by rw [if_pos hcell, hlit]; rfl⟩⟩
      · simp only [if_neg hcell, Nat.add_zero] at h
        exact .inr ⟨x, y, by rwa [if_neg hcell]⟩

/-- The cells of a screen are turned over in the same order. -/
theorem toggleAll_grid (points : List (Int × Int)) :
    (Grid.toggleAll points).on s.grid =
      (.ok (s.toggleAll points).2, (s.toggleAll points).1.grid) := by
  induction points generalizing s with
  | nil => rfl
  | cons p points ih =>
    rw [Grid.toggleAll, Attempt.bind_of_ok (s.toggle_grid p.1 p.2), Attempt.bind_of_ok (ih _),
      Attempt.on_pure, toggleAll_cons]

/-! ## Drawing sprites -/

/-- A host draws a sprite on the cells of a screen if there is room for its highest bit, and nothing
otherwise. -/
theorem draw_grid (room : Room) (sprite : Sprite) (hwidth : 0 < sprite.width) (x y : Int) :
    (Grid.draw room sprite.rows x y sprite.width).on s.grid =
      match Sprite.checkBit room (sprite.width - 1) with
      | .ok () => (.ok (s.draw sprite x y).2, (s.draw sprite x y).1.grid)
      | .error cause => (.error (.refused (.oversize cause)), s.grid) := by
  have hpos : ¬ (sprite.width : Int) ≤ 0 := by omega
  have hsprite : Sprite.ofRows? room sprite.rows sprite.width =
      ((Sprite.checkBit room (sprite.width - 1)).mapError .oversize).map fun _ => sprite := by
    rw [Sprite.ofRows?, if_neg hpos, Int.toNat_natCast]
  rw [Grid.draw, hsprite]
  cases Sprite.checkBit room (sprite.width - 1) with
  | error cause => rfl
  | ok u =>
    have hchecked : (Grid.checked (.ok sprite)).on s.grid = (.ok sprite, s.grid) := rfl
    exact (Attempt.bind_of_ok hchecked).trans (s.toggleAll_grid _)

theorem width_draw (sprite : Sprite) (x y : Int) : (s.draw sprite x y).1.width = s.width :=
  (s.size_toggleAll _).1

theorem height_draw (sprite : Sprite) (x y : Int) : (s.draw sprite x y).1.height = s.height :=
  (s.size_toggleAll _).2

/-- How often a sprite turns over the pixel at column `x'` and row `y'`. -/
def turns (sprite : Sprite) (x y x' y' : Int) : Nat :=
  s.mentions (sprite.points.map fun (dx, dy) => (x + dx, y + dy)) x' y'

theorem get_draw (sprite : Sprite) (x y x' y' : Int) :
    (s.draw sprite x y).1.get x' y' =
      (s.get x' y' ^^ decide (s.turns sprite x y x' y' % 2 = 1)) :=
  s.get_toggleAll _ x' y'

/-- Only the size of the screen counts. -/
theorem turns_draw (sprite sprite' : Sprite) (x y x' y' a b : Int) :
    (s.draw sprite' x' y').1.turns sprite x y a b = s.turns sprite x y a b := by
  simp only [turns, mentions, width_draw, height_draw]

/-- Only the pixel at which the corner of the sprite is counts. -/
theorem turns_congr {x y x' y' : Int} (hx : x' % s.width = x % s.width)
    (hy : y' % s.height = y % s.height) (sprite : Sprite) (a b : Int) :
    s.turns sprite x' y' a b = s.turns sprite x y a b := by
  have hcolumn : ∀ d : Nat, (x' + d) % s.width = (x + d) % s.width :=
    fun d => by rw [Int.add_emod, hx, ← Int.add_emod]
  have hrow : ∀ d : Nat, (y' + d) % s.height = (y + d) % s.height :=
    fun d => by rw [Int.add_emod, hy, ← Int.add_emod]
  simp only [turns, mentions, List.countP_map, Function.comp_def, hcolumn, hrow]

/-- The set bits of a sprite that fall onto the pixel at column `X` and row `Y` when its upper left
corner is drawn at column `x` and row `y`, each by its column and its row in the sprite. -/
def covering (sprite : Sprite) (x y : Int) (X Y : Nat) : Finset (Nat × Nat) :=
  {p ∈ Finset.range sprite.width ×ˢ Finset.range sprite.rows.length |
    (sprite.rows.getD p.2 0).testBit (sprite.width - 1 - p.1) = true ∧
      (x + p.1) % s.width = X ∧ (y + p.2) % s.height = Y}

/-- A sprite turns a pixel over once for each set bit that falls onto it. -/
theorem turns_eq_card (sprite : Sprite) (x y : Int) (X : Fin s.width) (Y : Fin s.height) :
    s.turns sprite x y X.val Y.val = (s.covering sprite x y X Y).card := by
  have hX : (X.val : Int) % s.width = X.val :=
    Int.emod_eq_of_lt (Int.natCast_nonneg _) (Int.ofNat_lt.2 X.isLt)
  have hY : (Y.val : Int) % s.height = Y.val :=
    Int.emod_eq_of_lt (Int.natCast_nonneg _) (Int.ofNat_lt.2 Y.isLt)
  rw [turns, mentions, List.countP_map, List.countP_eq_length_filter,
    ← List.toFinset_card_of_nodup (Sprite.nodup_points.filter _)]
  congr 1
  ext p
  simp [covering, Sprite.mem_points, hX, hY, and_assoc]

theorem get_draw_eq (sprite : Sprite) (x y : Int) (X : Fin s.width) (Y : Fin s.height) :
    (s.draw sprite x y).1.get X.val Y.val =
      (s.get X.val Y.val ^^ decide ((s.covering sprite x y X Y).card % 2 = 1)) := by
  rw [get_draw, turns_eq_card]

theorem hit_draw_iff (sprite : Sprite) (x y : Int) :
    (s.draw sprite x y).2 = true ↔
      ∃ (X : Fin s.width) (Y : Fin s.height),
        1 ≤ (s.covering sprite x y X Y).card ∧ s.get X.val Y.val = true ∨
          2 ≤ (s.covering sprite x y X Y).card := by
  rw [draw, hit_toggleAll_iff]
  constructor
  · rintro ⟨a, b, h⟩
    refine ⟨s.column a, s.row b, ?_⟩
    rwa [← turns_eq_card, turns, mentions_column_row, get_column_row]
  · rintro ⟨X, Y, h⟩
    rw [← turns_eq_card] at h
    exact ⟨X.val, Y.val, h⟩

/-- A sprite that is drawn once more at the same pixel is gone. -/
theorem draw_draw_self {x y x' y' : Int} (hx : x' % s.width = x % s.width)
    (hy : y' % s.height = y % s.height) (sprite : Sprite) :
    ((s.draw sprite x y).1.draw sprite x' y').1 = s := by
  refine ext_get ?_ ?_ fun a b => ?_
  · rw [width_draw, width_draw]
  · rw [height_draw, height_draw]
  · rw [get_draw, get_draw, turns_draw, s.turns_congr hx hy, Bool.xor_assoc, Bool.xor_self,
      Bool.xor_false]

/-- Two sprites leave the same screen in either order. -/
theorem draw_comm (sprite sprite' : Sprite) (x y x' y' : Int) :
    ((s.draw sprite x y).1.draw sprite' x' y').1 =
      ((s.draw sprite' x' y').1.draw sprite x y).1 := by
  refine ext_get ?_ ?_ fun a b => ?_
  · simp only [width_draw]
  · simp only [height_draw]
  · simp only [get_draw, turns_draw]
    rw [Bool.xor_assoc, Bool.xor_comm (decide _), ← Bool.xor_assoc]

/-- **Drawing turns a pixel over once for each set bit of the sprite that falls onto it**, and it
meets a lit pixel exactly if one that was lit is covered, or one is covered twice. Therefore a
sprite that is drawn once more at the same pixel is gone, and two sprites leave the same screen in
either order. All this is done to the cells as well, if there is room for the highest bit. -/
theorem draw_turns_covered (sprite : Sprite) (x y : Int) :
    (∀ room, 0 < sprite.width →
      (Grid.draw room sprite.rows x y sprite.width).on s.grid =
        match Sprite.checkBit room (sprite.width - 1) with
        | .ok () => (.ok (s.draw sprite x y).2, (s.draw sprite x y).1.grid)
        | .error cause => (.error (.refused (.oversize cause)), s.grid)) ∧
    ((s.draw sprite x y).1.width = s.width ∧ (s.draw sprite x y).1.height = s.height) ∧
    (∀ (X : Fin s.width) (Y : Fin s.height),
      (s.draw sprite x y).1.get X.val Y.val =
        (s.get X.val Y.val ^^ decide ((s.covering sprite x y X Y).card % 2 = 1))) ∧
    ((s.draw sprite x y).2 = true ↔
      ∃ (X : Fin s.width) (Y : Fin s.height),
        1 ≤ (s.covering sprite x y X Y).card ∧ s.get X.val Y.val = true ∨
          2 ≤ (s.covering sprite x y X Y).card) ∧
    (∀ x' y', x' % s.width = x % s.width → y' % s.height = y % s.height →
      ((s.draw sprite x y).1.draw sprite x' y').1 = s) ∧
    (∀ sprite' x' y',
      ((s.draw sprite x y).1.draw sprite' x' y').1 =
        ((s.draw sprite' x' y').1.draw sprite x y).1) :=
  ⟨fun room hwidth => s.draw_grid room sprite hwidth x y,
    ⟨s.width_draw sprite x y, s.height_draw sprite x y⟩, s.get_draw_eq sprite x y,
    s.hit_draw_iff sprite x y, fun _ _ hx hy => s.draw_draw_self hx hy sprite,
    fun sprite' x' y' => s.draw_comm sprite sprite' x y x' y'⟩

/-- A row of four set bits on a screen of three columns, one of which it covers twice. -/
theorem draw_turns_covered_on_small_screen :
    let s := (dark 3 2 (by decide) (by decide)).set 1 0 true
    let sprite : Sprite := ⟨[-1], 4⟩
    (s.covering sprite 2 1 2 1).card = 2 ∧ (s.draw sprite 2 1).2 = true ∧
      (-1 : Int) % s.width = 2 % s.width ∧ (5 : Int) % s.height = 1 % s.height ∧
      ((s.draw sprite 2 1).1.draw sprite (-1) 5).1 = s := by
  intro s sprite
  have hcard : (s.covering sprite 2 1 2 1).card = 2 := by decide
  have hx : (-1 : Int) % s.width = 2 % s.width := by decide
  have hy : (5 : Int) % s.height = 1 % s.height := by decide
  obtain ⟨-, -, -, hhit, hrestored, -⟩ := s.draw_turns_covered sprite 2 1
  refine ⟨hcard, hhit.2 ⟨⟨2, by decide⟩, ⟨1, by decide⟩, .inr (Nat.le_of_eq hcard.symm)⟩, hx, hy,
    hrestored (-1) 5 hx hy⟩

end Screen

end SuperChip
