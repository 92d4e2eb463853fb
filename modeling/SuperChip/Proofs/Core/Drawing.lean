import SuperChip.Proofs.Core.Frame
import SuperChip.Proofs.Screen.Fitting

/-!
# What the drawing instruction does

The instruction reads a sprite from memory and turns over the pixels that it covers. The sprite and
these pixels are told here from the state before the instruction alone. No sprite that can be read
is larger than a screen, so that each pixel is turned over at most once.

- `Core.spriteWidth`, `spriteHeight`, `spriteRow`, `ink`: the sprite as it stands in memory;
  `ink_storedSprite` says that it is the one that is drawn.
- `Core.toggled`, `Core.darkened`: the pixels that are turned over, and those of them that were lit.
- `Core.Draws`: what a drawing instruction changes and what it leaves.
- `drw_draws_sprite`: **a drawing instruction that meets no fault turns over the pixels of its
  sprite**, notes whether one of them was lit, and goes on.

About `op_drw`.
-/

namespace SuperChip

/-! ## Rows of sprites -/

namespace Sprite

theorem length_lt_of_unpaired {bytes : List UInt8}
    (h : ∀ high low rest, bytes = high :: low :: rest → False) : bytes.length < 2 := by
  cases bytes with
  | nil => simp
  | cons high rest =>
    cases rest with
    | nil => simp
    | cons low rest => exact absurd rfl (h high low rest)

/-- Two bytes make up one row of a wide sprite. -/
theorem length_wordRows (bytes : List UInt8) : (wordRows bytes).length = bytes.length / 2 := by
  fun_induction wordRows bytes with
  | case1 high low rest ih =>
    rw [List.length_cons, ih, List.length_cons, List.length_cons]
    omega
  | case2 bytes h =>
    have := length_lt_of_unpaired h
    rw [List.length_nil]
    omega

/-- A row of two bytes has the first one as its higher half. -/
theorem getD_wordRows (bytes : List UInt8) (r : Nat) (hr : 2 * r + 1 < bytes.length) :
    (wordRows bytes).getD r 0 =
      ((bytes.getD (2 * r) 0).toNat * 256 + (bytes.getD (2 * r + 1) 0).toNat : Nat) := by
  fun_induction wordRows bytes generalizing r with
  | case1 high low rest ih =>
    cases r with
    | zero => rfl
    | succ r => exact ih r (by simp only [List.length_cons] at hr; omega)
  | case2 bytes h =>
    have := length_lt_of_unpaired h
    omega

/-- A byte makes up one row of a narrow sprite. -/
theorem getD_ofBytes (bytes : List UInt8) (r : Nat) :
    (ofBytes bytes).rows.getD r 0 = ((bytes.getD r 0).toNat : Nat) := by
  simp only [ofBytes, List.getD_eq_getElem?_getD, List.getElem?_map]
  cases bytes[r]? <;> rfl

end Sprite

namespace Core

variable {c : Core} {rows : Fin 16}

/-! ## The sprite in memory -/

/-- The number of columns of the sprite of a drawing instruction. -/
def spriteWidth (c : Core) (rows : Fin 16) : Nat := if c.IsLargeSprite rows then 16 else 8

/-- The number of rows of the sprite. -/
def spriteHeight (c : Core) (rows : Fin 16) : Nat := if c.IsLargeSprite rows then 16 else rows.val

/-- The byte of memory so many cells behind the index register, as a number. -/
def spriteByte (c : Core) (k : Nat) : Nat := (c.memory.byteAt (c.registers.i.toNat + k)).toNat

/-- A row of the sprite: one byte, or two of which the first is the higher half. -/
def spriteRow (c : Core) (rows : Fin 16) (r : Nat) : Nat :=
  if c.IsLargeSprite rows then c.spriteByte (2 * r) * 256 + c.spriteByte (2 * r + 1)
  else c.spriteByte r

/-- The set bits of the sprite, each by its column and its row. The highest bit of a row is
leftmost. -/
def ink (c : Core) (rows : Fin 16) : Finset (Nat × Nat) :=
  {p ∈ Finset.range (c.spriteWidth rows) ×ˢ Finset.range (c.spriteHeight rows) |
    (c.spriteRow rows p.2).testBit (c.spriteWidth rows - 1 - p.1) = true}

/-- The sprite lies inside the memory. -/
def HasSprite (c : Core) (rows : Fin 16) : Prop :=
  c.registers.i.toNat + c.spriteLength rows ≤ 0x1000

/-- Where the memory has all bytes from the index on, they are all taken. -/
theorem length_indexed {length : Nat} (h : c.registers.i.toNat + length ≤ 0x1000) :
    (c.indexed length).length = length := by
  rw [indexed, Memory.length_slice]
  omega

/-- They are taken in the order of their addresses. -/
theorem getD_indexed {length k : Nat} (hk : k < length)
    (h : c.registers.i.toNat + length ≤ 0x1000) :
    (c.indexed length).getD k 0 = c.memory.byteAt (c.registers.i.toNat + k) := by
  have hk' : k < (c.indexed length).length := by rwa [length_indexed h]
  rw [List.getD_eq_getElem?_getD, List.getElem?_eq_getElem hk', Option.getD_some]
  exact Ram.getElem_slice _ hk'

theorem width_storedSprite : (c.storedSprite rows).width = c.spriteWidth rows := by
  unfold storedSprite spriteWidth
  split <;> rfl

/-- A sprite from memory has as many rows as its height says. -/
theorem length_rows_storedSprite (h : c.HasSprite rows) :
    (c.storedSprite rows).rows.length = c.spriteHeight rows := by
  unfold HasSprite spriteLength at h
  unfold storedSprite spriteHeight
  by_cases hlarge : c.IsLargeSprite rows
  · rw [if_pos hlarge] at h
    rw [if_pos hlarge, if_pos hlarge, Sprite.ofBytePairs, Sprite.length_wordRows, length_indexed h]
  · rw [if_neg hlarge] at h
    rw [if_neg hlarge, if_neg hlarge, Sprite.ofBytes, List.length_map, length_indexed h]

/-- Its rows are those that stand in memory. -/
theorem getD_rows_storedSprite (h : c.HasSprite rows) {r : Nat} (hr : r < c.spriteHeight rows) :
    (c.storedSprite rows).rows.getD r 0 = c.spriteRow rows r := by
  unfold HasSprite spriteLength at h
  unfold spriteHeight at hr
  unfold storedSprite spriteRow
  by_cases hlarge : c.IsLargeSprite rows
  · rw [if_pos hlarge] at h hr
    rw [if_pos hlarge, if_pos hlarge, Sprite.ofBytePairs,
      Sprite.getD_wordRows _ _ (by rw [length_indexed h]; omega), getD_indexed (by omega) h,
      getD_indexed (by omega) h, spriteByte, spriteByte]
  · rw [if_neg hlarge] at h hr
    rw [if_neg hlarge, if_neg hlarge, Sprite.getD_ofBytes, getD_indexed hr h, spriteByte]

/-- The sprite that is drawn is the one in memory. -/
theorem ink_storedSprite (h : c.HasSprite rows) : (c.storedSprite rows).ink = c.ink rows := by
  rw [Sprite.ink, ink, width_storedSprite, length_rows_storedSprite h]
  refine Finset.filter_congr fun p hp => ?_
  have hr : p.2 < c.spriteHeight rows := Finset.mem_range.1 (Finset.mem_product.1 hp).2
  rw [getD_rows_storedSprite h hr]
  rfl

/-- Sprites are no larger than a screen. -/
theorem fits_storedSprite (hmode : c.screen.HasMode) (h : c.HasSprite rows) :
    (c.storedSprite rows).Fits c.screen := by
  have hwidth : c.spriteWidth rows ≤ 16 := by
    unfold spriteWidth
    split <;> omega
  have hheight : c.spriteHeight rows ≤ 16 := by
    have := rows.isLt
    unfold spriteHeight
    split <;> omega
  unfold Screen.HasMode at hmode
  constructor
  · rw [width_storedSprite]
    omega
  · rw [length_rows_storedSprite h]
    omega

/-! ## Drawing it -/

/-- The pixels that a drawing instruction turns over: those onto which a set bit of its sprite
falls, whose corner is at the column and the row in two registers. -/
def toggled (c : Core) (x y : Register) (rows : Fin 16) : Finset (Nat × Nat) :=
  let a : Int := (c.registers.get x).toNat
  let b : Int := (c.registers.get y).toNat
  {p ∈ Finset.range c.screen.width ×ˢ Finset.range c.screen.height |
    (((p.1 - a) % c.screen.width).toNat, ((p.2 - b) % c.screen.height).toNat) ∈ c.ink rows}

/-- Those of them that were lit. -/
def darkened (c : Core) (x y : Register) (rows : Fin 16) : Finset (Nat × Nat) :=
  (c.toggled x y rows).filter fun p => c.screen.get p.1 p.2 = true

/-- What a drawing instruction changes and what it leaves. -/
structure Draws (c : Core) (x y : Register) (rows : Fin 16) (c' : Core) : Prop where
  width : c'.screen.width = c.screen.width
  height : c'.screen.height = c.screen.height
  pixel : ∀ X < c.screen.width, ∀ Y < c.screen.height,
    c'.screen.get X Y =
      if (X, Y) ∈ c.toggled x y rows then !c.screen.get X Y else c.screen.get X Y
  flag : c'.registers.get Registers.flag = if (c.darkened x y rows).Nonempty then 1 else 0
  litCount : (c'.screen.litCount : Int) - c.screen.litCount =
    (c.ink rows).card - 2 * (c.darkened x y rows).card
  v : ∀ k, k ≠ Registers.flag → c'.registers.get k = c.registers.get k
  index : c'.registers.i = c.registers.i
  memory : c'.memory = c.memory
  rpl : c'.registers.rpl = c.registers.rpl
  pc : c'.registers.pc = c.registers.pc + 2

theorem covered_storedSprite (h : c.HasSprite rows) (x y : Register) :
    c.screen.covered (c.storedSprite rows) (c.registers.get x).toNat (c.registers.get y).toNat =
      c.toggled x y rows := by
  rw [Screen.covered, ink_storedSprite h]
  rfl

/-- What `DRW` leaves is the picture with the sprite of the memory turned over in it. -/
theorem draws_drawn (hmode : c.screen.HasMode) (h : c.HasSprite rows) (x y : Register) :
    c.Draws x y rows (c.drawn x y (c.storedSprite rows)) where
  width := c.screen.width_draw _ _ _
  height := c.screen.height_draw _ _ _
  pixel := by
    intro X hX Y hY
    have hpixel := Screen.get_draw_of_fits (fits_storedSprite hmode h) (c.registers.get x).toNat
      (c.registers.get y).toNat ⟨X, hX⟩ ⟨Y, hY⟩
    rw [covered_storedSprite h] at hpixel
    refine hpixel.trans ?_
    split <;> simp [*]
  flag := by
    have hhit := Screen.hit_draw_of_fits (fits_storedSprite hmode h) (c.registers.get x).toNat
      (c.registers.get y).toNat
    rw [covered_storedSprite h, ← Finset.filter_nonempty_iff] at hhit
    exact (Registers.get_set_self _ _ _).trans (if_congr hhit rfl rfl)
  litCount := by
    have hlit := Screen.litCount_draw_of_fits (fits_storedSprite hmode h)
      (c.registers.get x).toNat (c.registers.get y).toNat
    rw [covered_storedSprite h, ink_storedSprite h] at hlit
    show ((c.screen.draw _ _ _).1.litCount : Int) - _ = _
    rw [hlit, darkened]
    omega
  v k hk := Registers.get_set_of_ne _ _ hk
  index := rfl
  memory := rfl
  rpl := rfl
  pc := rfl

/-! ## Executing the instruction -/

/-- Where the memory has the whole sprite, `DRW` completes. -/
theorem execute_drw_of_hasSprite (h : c.HasSprite rows) (keys : Keys) (x y : Register) :
    c.execute keys (.drw x y rows) = (c.drawn x y (c.storedSprite rows)).completed := by
  show c.drawSprite x y rows = _
  rw [drawSprite_eq, overrun?, if_neg (Nat.not_lt.2 h)]
  rfl

/-- Drawing completes exactly if the sprite lies inside the memory. -/
theorem execute_drw_ok_iff (keys : Keys) (x y : Register) :
    (c.execute keys (.drw x y rows)).1 = .ok () ↔ c.HasSprite rows := by
  constructor
  · intro hok
    by_cases h : c.HasSprite rows
    · exact h
    · have hfault : c.execute keys (.drw x y rows) =
          c.faulted (.outOfBounds c.registers.i.toNat (c.spriteLength rows)) := by
        show c.drawSprite x y rows = _
        rw [drawSprite_eq, overrun?, if_pos (Nat.not_le.1 h)]
        rfl
      rw [hfault] at hok
      cases hok
  · intro h
    rw [execute_drw_of_hasSprite h]
    rfl

/-- **A drawing instruction that meets no fault turns over the pixels of its sprite.** A step
executes it where it stands at the program counter. -/
theorem drw_draws_sprite (hmode : c.screen.HasMode) (keys : Keys) (x y : Register)
    (hok : (c.execute keys (.drw x y rows)).1 = .ok ()) :
    c.Draws x y rows (c.execute keys (.drw x y rows)).2 ∧
      ∀ d, c.peek = .ok d → d.instruction = .drw x y rows →
        c.step keys = (.ok d, (c.execute keys (.drw x y rows)).2) := by
  have h := (execute_drw_ok_iff keys x y).1 hok
  rw [execute_drw_of_hasSprite h]
  constructor
  · exact draws_drawn hmode h x y
  · intro d hpeek hd
    unfold step
    simp only [hpeek, hd, execute_drw_of_hasSprite h]
    rfl

/-- A program that draws itself: its instruction, which takes the column and the row from the flag
register, is the sprite. The corner is the lower right pixel, so that the sprite appears in all four
corners of the screen. -/
theorem drw_draws_sprite_of_sample :
    let registers := { Registers.initial with v := Vector.replicate 16 63, i := 0x200 }
    let c := { start [0xDF, 0xF2] ⟨.start 1 0 0, .start 1 0 0⟩ (.seeded 0) with
      registers := registers }
    let keys := Vector.replicate 16 false
    let after := (c.execute keys (.drw 15 15 2)).2
    c.screen.HasMode ∧ (c.execute keys (.drw 15 15 2)).1 = .ok () ∧ c.Draws 15 15 2 after ∧
      c.step keys = (.ok ⟨0xDFF2, .drw 15 15 2⟩, after) ∧ (c.ink 2).card = 12 := by
  intro registers c keys after
  have hmode : c.screen.HasMode := .inl ⟨rfl, rfl⟩
  have hok : (c.execute keys (.drw 15 15 2)).1 = .ok () :=
    (execute_drw_ok_iff keys 15 15).2 (show 0x200 + 2 ≤ 0x1000 by decide)
  obtain ⟨hdraws, hstep⟩ := drw_draws_sprite hmode keys 15 15 hok
  have hpeek : c.peek = .ok ⟨0xDFF2, .drw 15 15 2⟩ :=
    (peek_start 0xDF 0xF2 [] ⟨.start 1 0 0, .start 1 0 0⟩ (.seeded 0)).trans rfl
  refine ⟨hmode, hok, hdraws, hstep _ hpeek rfl, ?_⟩
  have hrow : ∀ r, r < 2 → c.spriteRow 2 r = [0xDF, 0xF2].getD r 0 := by
    intro r hr
    have hbyte : c.memory.byteAt (c.registers.i.toNat + r) = [(0xDF : UInt8), 0xF2][r] :=
      Ram.byteAt_boot hr (show 0x200 + r < 0x1000 by omega)
    have hsmall : ¬ c.IsLargeSprite 2 := fun hlarge => absurd hlarge.1 (by decide)
    rw [spriteRow, if_neg hsmall, spriteByte, hbyte]
    obtain rfl | rfl : r = 0 ∨ r = 1 := by omega
    · rfl
    · rfl
  have hink : c.ink 2 = {p ∈ Finset.range 8 ×ˢ Finset.range 2 |
      ([0xDF, 0xF2].getD p.2 0).testBit (7 - p.1) = true} :=
    Finset.filter_congr fun p hp => by
      rw [hrow _ (Finset.mem_range.1 (Finset.mem_product.1 hp).2)]
      rfl
  rw [hink]
  rfl

end Core

end SuperChip
