import Mathlib.Data.Finset.Card
import Mathlib.Data.Finset.Prod
import SuperChip.Proofs.Screen.Drawing

/-!
# Drawing sprites that fit

A sprite that is no larger than the screen never falls onto itself, wherever its corner is, though
it may leave the screen at one edge and enter it again at the other. Every set bit then has a pixel
of its own, and drawing is the symmetric difference of two sets of pixels.

- `Sprite.ink`, `Sprite.Fits`: the set bits of a sprite, and the sprites that fit on a screen.
- `Screen.landing`, `Screen.covered`: the pixel that a bit falls onto, and the pixels that the set
  bits fall onto; `card_filter_covered` counts the pixels by the bits.
- `Screen.Apart`: pixels of which no two are the same; `litCount_toggleAll` is the balance of lit
  pixels when they are turned over.
- `get_draw_of_fits`, `hit_draw_of_fits`, `litCount_draw_of_fits`: **drawing a sprite that fits
  turns over the pixels that it covers, each once**.
-/

namespace SuperChip

namespace Sprite

/-- The set bits of a sprite, each by its column and its row. -/
def ink (sprite : Sprite) : Finset (Nat × Nat) :=
  {p ∈ Finset.range sprite.width ×ˢ Finset.range sprite.rows.length |
    (sprite.rows.getD p.2 0).testBit (sprite.width - 1 - p.1) = true}

/-- A sprite has no more columns and no more rows than a screen. -/
structure Fits (sprite : Sprite) (s : Screen) : Prop where
  width_le : sprite.width ≤ s.width
  height_le : sprite.rows.length ≤ s.height

variable {sprite : Sprite} {s : Screen}

/-- The ink of a sprite are the columns and rows of its lit bits. -/
theorem mem_ink {p : Nat × Nat} :
    p ∈ sprite.ink ↔
      (p.1 < sprite.width ∧ p.2 < sprite.rows.length) ∧
        (sprite.rows.getD p.2 0).testBit (sprite.width - 1 - p.1) = true := by
  rw [ink, Finset.mem_filter, Finset.mem_product, Finset.mem_range, Finset.mem_range]

/-- The points of a sprite are its set bits, each listed once. -/
theorem toFinset_points : sprite.points.toFinset = sprite.ink := by
  ext p
  rw [List.mem_toFinset, mem_points, mem_ink]

theorem length_points : sprite.points.length = sprite.ink.card := by
  rw [← toFinset_points, List.toFinset_card_of_nodup nodup_points]

/-- Counting among the points is counting among the set bits. -/
theorem countP_points (q : Nat × Nat → Bool) :
    sprite.points.countP q = (sprite.ink.filter fun p => q p = true).card := by
  rw [List.countP_eq_length_filter, ← List.toFinset_card_of_nodup (nodup_points.filter _),
    List.toFinset_filter, toFinset_points]

/-- The set bits of a sprite that fits lie inside the screen. -/
theorem Fits.lt_of_mem_ink (h : sprite.Fits s) {p : Nat × Nat} (hp : p ∈ sprite.ink) :
    p.1 < s.width ∧ p.2 < s.height := by
  obtain ⟨⟨hcolumn, hrow⟩, -⟩ := mem_ink.1 hp
  exact ⟨Nat.lt_of_lt_of_le hcolumn h.width_le, Nat.lt_of_lt_of_le hrow h.height_le⟩

end Sprite

/-- Of the numbers below `n` exactly one leads from `x` to a given number, counted modulo `n`. -/
theorem add_emod_eq_iff {n p X : Nat} (hp : p < n) (hX : X < n) (x : Int) :
    (x + p) % n = X ↔ p = ((X - x) % n).toNat := by
  have hn : (0 : Int) < n := by omega
  have hp' : (p : Int) % n = p := Int.emod_eq_of_lt (Int.natCast_nonneg p) (Int.ofNat_lt.2 hp)
  have hX' : (x + (X - x)) % n = X := by
    rw [Int.add_comm, Int.sub_add_cancel]
    exact Int.emod_eq_of_lt (Int.natCast_nonneg X) (Int.ofNat_lt.2 hX)
  have hnonneg : 0 ≤ (X - x) % n := Int.emod_nonneg _ (Int.ne_of_gt hn)
  calc
    (x + p) % n = X ↔ (x + p) % n = (x + (X - x)) % n := by rw [hX']
    _ ↔ (p : Int) % n = (X - x) % n := Int.emod_add_cancel_left
    _ ↔ p = ((X - x) % n).toNat := by rw [hp']; omega

namespace Screen

variable (s : Screen)

/-! ## Bits and pixels -/

/-- The pixel that a bit of a sprite falls onto whose corner is at column `x` and row `y`. -/
def landing (x y : Int) (p : Nat × Nat) : Nat × Nat :=
  ((s.column (x + p.1)).val, (s.row (y + p.2)).val)

/-- The bit of a sprite that falls onto a pixel, if the sprite has it. -/
def source (x y : Int) (p : Nat × Nat) : Nat × Nat :=
  ((s.column (p.1 - x)).val, (s.row (p.2 - y)).val)

/-- The pixels that the set bits of a sprite fall onto. -/
def covered (sprite : Sprite) (x y : Int) : Finset (Nat × Nat) :=
  {p ∈ Finset.range s.width ×ˢ Finset.range s.height | s.source x y p ∈ sprite.ink}

variable {s} {sprite : Sprite} {x y : Int}

theorem landing_eq_mk_iff {p : Nat × Nat} {X Y : Nat} :
    s.landing x y p = (X, Y) ↔ (x + p.1) % s.width = X ∧ (y + p.2) % s.height = Y := by
  rw [landing, Prod.mk.injEq, ← Int.natCast_inj, ← Int.natCast_inj, val_column, val_row]

/-- A bit inside the screen falls onto a pixel exactly if it is the source of that pixel. -/
theorem landing_eq_iff {p q : Nat × Nat} (hp : p.1 < s.width ∧ p.2 < s.height)
    (hq : q.1 < s.width ∧ q.2 < s.height) :
    s.landing x y p = q ↔ p = s.source x y q := by
  obtain ⟨X, Y⟩ := q
  rw [landing_eq_mk_iff, add_emod_eq_iff hp.1 hq.1, add_emod_eq_iff hp.2 hq.2, Prod.ext_iff]
  rfl

/-- A pixel is covered if there is ink above it. -/
theorem mem_covered {p : Nat × Nat} :
    p ∈ s.covered sprite x y ↔
      (p.1 < s.width ∧ p.2 < s.height) ∧ s.source x y p ∈ sprite.ink := by
  rw [covered, Finset.mem_filter, Finset.mem_product, Finset.mem_range, Finset.mem_range]

theorem landing_lt (x y : Int) (p : Nat × Nat) :
    (s.landing x y p).1 < s.width ∧ (s.landing x y p).2 < s.height :=
  ⟨(s.column _).isLt, (s.row _).isLt⟩

/-- A sprite that fits does not fall onto itself: its bits fall onto different pixels. -/
theorem landing_injOn (h : sprite.Fits s) (x y : Int) :
    Set.InjOn (s.landing x y) sprite.ink := by
  intro p hp q hq heq
  have hp' := (landing_eq_iff (h.lt_of_mem_ink hp) (landing_lt x y q)).1 heq
  have hq' := (landing_eq_iff (h.lt_of_mem_ink hq) (landing_lt x y q)).1 rfl
  exact hp'.trans hq'.symm

/-- The ink of a sprite that fits lands on the pixels that it covers. -/
theorem image_landing_ink (h : sprite.Fits s) (x y : Int) :
    sprite.ink.image (s.landing x y) = s.covered sprite x y := by
  ext q
  rw [Finset.mem_image, mem_covered]
  constructor
  · rintro ⟨p, hp, rfl⟩
    have hsource := (landing_eq_iff (h.lt_of_mem_ink hp) (landing_lt x y p)).1 rfl
    exact ⟨landing_lt x y p, hsource ▸ hp⟩
  · rintro ⟨hq, hsource⟩
    exact ⟨_, hsource, (landing_eq_iff (h.lt_of_mem_ink hsource) hq).2 rfl⟩

/-- Covered pixels are counted by the bits that fall onto them. -/
theorem card_filter_covered (h : sprite.Fits s) (x y : Int) (q : Nat × Nat → Prop)
    [DecidablePred q] :
    ((s.covered sprite x y).filter q).card =
      (sprite.ink.filter fun p => q (s.landing x y p)).card := by
  rw [← image_landing_ink h, Finset.filter_image]
  exact Finset.card_image_of_injOn ((landing_injOn h x y).mono (Finset.filter_subset _ _))

theorem covering_eq_filter (sprite : Sprite) (x y : Int) (X Y : Nat) :
    s.covering sprite x y X Y = sprite.ink.filter (s.landing x y · = (X, Y)) := by
  rw [Sprite.ink, Finset.filter_filter]
  exact Finset.filter_congr fun p _ => and_congr_right fun _ => landing_eq_mk_iff.symm

/-- Onto a pixel falls at most one set bit of a sprite that fits. -/
theorem card_covering_of_fits (h : sprite.Fits s) (x y : Int) (X : Fin s.width)
    (Y : Fin s.height) :
    (s.covering sprite x y X Y).card =
      if (X.val, Y.val) ∈ s.covered sprite x y then 1 else 0 := by
  have hone : s.covering sprite x y X Y = sprite.ink.filter (· = s.source x y (X, Y)) := by
    rw [covering_eq_filter]
    exact Finset.filter_congr fun p hp => landing_eq_iff (h.lt_of_mem_ink hp) ⟨X.isLt, Y.isLt⟩
  rw [hone, Finset.filter_eq']
  have hmem : (X.val, Y.val) ∈ s.covered sprite x y ↔ s.source x y (X, Y) ∈ sprite.ink :=
    mem_covered.trans (and_iff_right ⟨X.isLt, Y.isLt⟩)
  simp only [hmem]
  split <;> rfl

/-! ## The balance of lit pixels -/

/-- Pixels of which no two are the same. -/
def Apart (s : Screen) (points : List (Int × Int)) : Prop :=
  points.Pairwise fun p q => s.cell p.1 p.2 ≠ s.cell q.1 q.2

/-- Turning a pixel over adds one to the lit ones or takes one away. -/
theorem litCount_toggle (x y : Int) :
    ((s.toggle x y).litCount : Int) = s.litCount + 1 - 2 * if s.get x y then 1 else 0 := by
  have hset : (s.toggle x y).litCount =
      (s.pixels.set (s.cell x y).val (!s.get x y) (s.cell x y).isLt).count true := rfl
  have hget : s.pixels[(s.cell x y).val] = s.get x y := rfl
  rw [hset, Vector.count_set, hget, litCount]
  cases hlit : s.get x y with
  | true =>
    have hpos : 1 ≤ s.pixels.count true := Vector.one_le_count_iff.2 (hlit ▸ Vector.getElem_mem _)
    simp
    omega
  | false => simp

/-- It leaves all other pixels. -/
theorem get_toggle_of_ne {p q : Int × Int} (h : s.cell p.1 p.2 ≠ s.cell q.1 q.2) :
    (s.toggle p.1 p.2).get q.1 q.2 = s.get q.1 q.2 := by
  rw [toggle, get_set, if_neg h]

/-- Turning over pixels that are apart lights those that were dark and darkens the others. -/
theorem litCount_toggleAll {points : List (Int × Int)} (h : s.Apart points) :
    ((s.toggleAll points).1.litCount : Int) =
      s.litCount + points.length - 2 * points.countP fun p => s.get p.1 p.2 := by
  induction points generalizing s with
  | nil => simp [toggleAll]
  | cons p points ih =>
    obtain ⟨hp, hpoints⟩ := List.pairwise_cons.1 h
    have hkept : points.countP (fun q => (s.toggle p.1 p.2).get q.1 q.2) =
        points.countP fun q => s.get q.1 q.2 :=
      List.countP_congr fun q hq => by rw [get_toggle_of_ne (hp q hq)]
    have hapart : (s.toggle p.1 p.2).Apart points := hpoints
    rw [toggleAll_cons, ih hapart, hkept, litCount_toggle, List.countP_cons, List.length_cons]
    push_cast
    split <;> omega

/-! ## Drawing -/

/-- A sprite that fits turns over no pixel twice. -/
theorem apart_of_fits (h : sprite.Fits s) (x y : Int) :
    s.Apart (sprite.points.map fun (dx, dy) => (x + dx, y + dy)) := by
  refine List.pairwise_map.2 (Sprite.nodup_points.pairwise_of_forall_ne fun p hp q hq hne => ?_)
  intro hcell
  rw [← List.mem_toFinset, Sprite.toFinset_points] at hp hq
  obtain ⟨hcolumn, hrow⟩ := s.cell_eq_iff.1 hcell
  exact hne
    (landing_injOn h x y hp hq (Prod.ext (congrArg Fin.val hcolumn) (congrArg Fin.val hrow)))

/-- **A sprite that fits turns over the pixels that it covers.** -/
theorem get_draw_of_fits (h : sprite.Fits s) (x y : Int) (X : Fin s.width) (Y : Fin s.height) :
    (s.draw sprite x y).1.get X.val Y.val =
      (s.get X.val Y.val ^^ decide ((X.val, Y.val) ∈ s.covered sprite x y)) := by
  rw [get_draw_eq, card_covering_of_fits h]
  split <;> simp [*]

/-- **It meets a lit pixel exactly if it covers one that was lit.** -/
theorem hit_draw_of_fits (h : sprite.Fits s) (x y : Int) :
    (s.draw sprite x y).2 = true ↔ ∃ p ∈ s.covered sprite x y, s.get p.1 p.2 = true := by
  rw [hit_draw_iff]
  simp only [card_covering_of_fits h]
  constructor
  · rintro ⟨X, Y, hXY⟩
    by_cases hmem : (X.val, Y.val) ∈ s.covered sprite x y
    · simp only [if_pos hmem] at hXY
      exact ⟨_, hmem, by simpa using hXY⟩
    · simp [if_neg hmem] at hXY
  · rintro ⟨p, hp, hlit⟩
    obtain ⟨⟨hX, hY⟩, -⟩ := mem_covered.1 hp
    exact ⟨⟨p.1, hX⟩, ⟨p.2, hY⟩, .inl ⟨by rw [if_pos hp], hlit⟩⟩

/-- **The balance of lit pixels**: each set bit lights a pixel, unless it darkens one. -/
theorem litCount_draw_of_fits (h : sprite.Fits s) (x y : Int) :
    ((s.draw sprite x y).1.litCount : Int) =
      s.litCount + sprite.ink.card -
        2 * ((s.covered sprite x y).filter fun p => s.get p.1 p.2 = true).card := by
  have hcount : (sprite.points.map fun (dx, dy) => ((x + dx, y + dy) : Int × Int)).countP
      (fun p => s.get p.1 p.2) =
        ((s.covered sprite x y).filter fun p => s.get p.1 p.2 = true).card := by
    rw [List.countP_map, Sprite.countP_points, card_filter_covered h]
    congr 1
    ext p
    simp only [Finset.mem_filter, Function.comp_def, landing, get_column_row]
  rw [draw, litCount_toggleAll (apart_of_fits h x y), hcount, List.length_map,
    Sprite.length_points]

end Screen

end SuperChip
