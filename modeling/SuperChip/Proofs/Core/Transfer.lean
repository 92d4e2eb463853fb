import SuperChip.Proofs.Core.Frame

/-!
# Transfers of several registers

A block of registers that is stored comes back with the opposite instruction, whatever was put into
the byte registers in between. The bytes that are taken are as many as the places they go to, so
that nothing next to a block changes, neither a cell nor a register.

- `toList_withLeading`: replacing the first entries of a row replaces a slice of it by another of
  the same length.
- `Core.indexed_stored`: what was stored is what stands from the index register on.
- `Core.BlockReturns`, `Core.FlagsReturn`, `Core.StoresDecimal`: what the transfers leave of the
  registers, of the flag registers and of the memory.
- `transfers_round_trip`: **a block of registers that was stored comes back**, from memory and from
  the flag registers, and the digits that are stored of a byte are its decimal digits.

About `op_ld_b_vx`, `op_ld_i_vx`, `op_ld_vx_i`, `op_ld_r_vx` and `op_ld_vx_r`.
-/

namespace SuperChip

/-! ## Slices of a row -/

/-- Replacing the first entries of a row replaces a slice by another of the same length. -/
theorem toList_withLeading {n : Nat} (row : Vector UInt8 n) {bytes : List UInt8}
    (h : bytes.length ≤ n) :
    (withLeading row bytes).toList = bytes ++ row.toList.drop bytes.length := by
  have hlength : (withLeading row bytes).toList.length =
      (bytes ++ row.toList.drop bytes.length).length := by
    simp
    omega
  refine List.ext_getElem hlength ?_
  intro k hk _
  rw [Vector.length_toList] at hk
  simp only [withLeading, Vector.getElem_toList, Vector.getElem_ofFn, List.getD_eq_getElem?_getD]
  by_cases hcovered : k < bytes.length
  · rw [List.getElem?_eq_getElem hcovered, Option.getD_some, List.getElem_append_left hcovered]
  · have hbehind := Nat.not_lt.1 hcovered
    rw [List.getElem?_eq_none hbehind, Option.getD_none, List.getElem_append_right hbehind,
      List.getElem_drop, Vector.getElem_toList]
    simp only [Nat.add_sub_cancel' hbehind]

/-- The first entries of one row are put into another. -/
theorem getElem_withLeading_leading {m n : Nat} (row : Vector UInt8 n) (source : Vector UInt8 m)
    {count k : Nat} (hn : k < n) (hm : k < m) :
    (withLeading row (leading source count))[k] = if k < count then source[k] else row[k] := by
  have hsource : source.toList[k]? = some source[k] := by simp [hm]
  rw [withLeading, Vector.getElem_ofFn, List.getD_eq_getElem?_getD, leading, List.getElem?_take]
  by_cases hk : k < count
  · rw [if_pos hk, if_pos hk, hsource, Option.getD_some]
  · rw [if_neg hk, if_neg hk, Option.getD_none]

namespace Core

variable {c : Core} {x : Register} {v : Vector UInt8 16}

-- the rows need not be computed where other parts of the core are compared
attribute [local irreducible] withLeading leading

/-! ## Cells from the index register on -/

/-- Bytes that end in memory do not run over its end. -/
theorem overrun?_eq_none {length : Nat} (h : c.registers.i.toNat + length ≤ 0x1000) :
    c.overrun? length = none :=
  if_neg (Nat.not_lt.2 h)

/-- What was stored is what stands from the index register on. -/
theorem indexed_stored {bytes : List UInt8} (h : c.registers.i.toNat + bytes.length ≤ 0x1000) :
    (c.stored bytes).indexed bytes.length = bytes :=
  c.memory.slice_place c.registers.i.toNat bytes h

/-- A stored byte stands at its place behind the index. -/
theorem byteAt_stored {bytes : List UInt8} {k : Nat} (hk : k < bytes.length)
    (h : c.registers.i.toNat + bytes.length ≤ 0x1000) :
    (c.stored bytes).memory.byteAt (c.registers.i.toNat + k) = bytes[k] :=
  c.memory.byteAt_place_of_lt c.registers.i.toNat hk (by omega)

/-! ## Blocks in memory -/

/-- The core with other byte registers. -/
def withBytes (c : Core) (v : Vector UInt8 16) : Core :=
  { c with registers := { c.registers with v := v } }

/-- What storing `V0` to `Vx`, overwriting the byte registers and loading the block again leave of a
core. -/
structure BlockReturns (c : Core) (x : Register) (v : Vector UInt8 16) (stored loaded : Core) :
    Prop where
  cells : ∀ k : Register, k.val ≤ x.val →
    stored.memory.byteAt (c.registers.i.toNat + k.val) = c.registers.get k
  elsewhere : ∀ a, a < c.registers.i.toNat ∨ c.registers.i.toNat + x.val < a →
    stored.memory.byteAt a = c.memory.byteAt a
  /-- Storing changes nothing else. -/
  others : stored = { c with memory := stored.memory, registers := c.registers.advance false }
  restored : ∀ k : Register, k.val ≤ x.val → loaded.registers.get k = c.registers.get k
  overwritten : ∀ k : Register, x.val < k.val → loaded.registers.get k = v.get k
  index : loaded.registers.i = c.registers.i
  memory : loaded.memory = stored.memory
  /-- Loading changes nothing else. -/
  rest : loaded =
    { stored with registers := { stored.registers.advance false with v := loaded.registers.v } }

theorem fits_leading (h : c.registers.i.toNat + x.val ≤ 0xFFF) :
    c.registers.i.toNat + (leading c.registers.v (x.val + 1)).length ≤ 0x1000 := by
  rw [length_leading]
  omega

/-- Registers whose cells are in memory are stored. -/
theorem execute_store (h : c.registers.i.toNat + x.val ≤ 0xFFF) (keys : Keys) :
    c.execute keys (.store x) = (.ok (), c.stored (leading c.registers.v (x.val + 1))) := by
  show c.storeBytes _ = _
  rw [storeBytes_eq, overrun?_eq_none (fits_leading h)]
  rfl

/-- Registers whose cells are in memory are loaded. -/
theorem execute_load (h : c.registers.i.toNat + x.val ≤ 0xFFF) (keys : Keys) :
    c.execute keys (.load x) = (.ok (), c.loaded x) := by
  show c.loadBytes x = _
  rw [loadBytes_eq, overrun?_eq_none (by omega)]
  rfl

/-- What is loaded are the bytes that were stored, in front of those that were put in. -/
theorem get_loaded_stored (h : c.registers.i.toNat + x.val ≤ 0xFFF) (k : Register) :
    (((c.stored (leading c.registers.v (x.val + 1))).withBytes v).loaded x).registers.get k =
      if k.val < x.val + 1 then c.registers.get k else v.get k := by
  have hback := indexed_stored (fits_leading h)
  rw [length_leading] at hback
  have hv : (((c.stored (leading c.registers.v (x.val + 1))).withBytes v).loaded x).registers.v =
      withLeading v (leading c.registers.v (x.val + 1)) := congrArg (withLeading v) hback
  rw [Registers.get, hv]
  exact getElem_withLeading_leading v c.registers.v k.isLt k.isLt

/-- What was stored is loaded again, whatever the registers held in between. -/
theorem blockReturns (h : c.registers.i.toNat + x.val ≤ 0xFFF) (v : Vector UInt8 16) :
    let stored := c.stored (leading c.registers.v (x.val + 1))
    c.BlockReturns x v stored ((stored.withBytes v).loaded x) where
  cells k hk := by
    have hlt : k.val < (leading c.registers.v (x.val + 1)).length := by
      rw [length_leading]
      exact Nat.lt_succ_of_le hk
    rw [byteAt_stored hlt (fits_leading h)]
    simp [leading, Registers.get]
  elsewhere a ha := by
    apply Ram.byteAt_place_of_outside
    rw [length_leading]
    exact ha
  others := rfl
  restored k hk := (get_loaded_stored h k).trans (if_pos (Nat.lt_succ_of_le hk))
  overwritten k hk := (get_loaded_stored h k).trans (if_neg (Nat.not_lt.2 hk))
  index := rfl
  memory := rfl
  rest := rfl

/-! ## Blocks of flag registers -/

/-- What saving `V0` to `Vx` to the flag registers, overwriting the byte registers and restoring the
block again leave of a core. -/
structure FlagsReturn (c : Core) (x : FlagRegister) (v : Vector UInt8 16) (saved after : Core) :
    Prop where
  /-- A slice of the flag registers is replaced by another of the same length. -/
  slice : saved.registers.rpl.toList =
    c.registers.v.toList.take (x.val + 1) ++ c.registers.rpl.toList.drop (x.val + 1)
  length : saved.registers.rpl.toList.length = 8
  flags : ∀ k : FlagRegister, x < k → saved.registers.rpl[k.val] = c.registers.rpl[k.val]
  /-- Saving changes nothing else. -/
  others : saved =
    { c with registers := { c.registers.advance false with rpl := saved.registers.rpl } }
  restored : ∀ k : Register, k.val ≤ x.val → after.registers.get k = c.registers.get k
  overwritten : ∀ k : Register, x.val < k.val → after.registers.get k = v.get k
  /-- Restoring changes nothing else. -/
  rest : after =
    { saved with registers := { saved.registers.advance false with v := after.registers.v } }

/-- The core after `V0` to `Vx` were saved to the flag registers. -/
def saved (c : Core) (x : FlagRegister) : Core :=
  { c with
    registers.rpl := withLeading c.registers.rpl (leading c.registers.v (x.val + 1))
  }.advance false

/-- The core after `V0` to `Vx` were restored from the flag registers. -/
def restored (c : Core) (x : FlagRegister) : Core :=
  { c with
    registers.v := withLeading c.registers.v (leading c.registers.rpl (x.val + 1))
  }.advance false

theorem execute_saveFlags (keys : Keys) (x : FlagRegister) :
    c.execute keys (.saveFlags x) = (.ok (), c.saved x) := rfl

theorem execute_restoreFlags (keys : Keys) (x : FlagRegister) :
    c.execute keys (.restoreFlags x) = (.ok (), c.restored x) := rfl

/-- What is restored are the bytes that were saved, in front of those that were put in. -/
theorem get_restored_saved (x : FlagRegister) (v : Vector UInt8 16) (k : Register) :
    (((c.saved x).withBytes v).restored x).registers.get k =
      if k.val < x.val + 1 then c.registers.get k else v.get k := by
  by_cases hk : k.val < x.val + 1
  · have hk8 : k.val < 8 := Nat.lt_of_lt_of_le hk x.isLt
    have hsaved : (c.saved x).registers.rpl[k.val] = c.registers.get k :=
      (getElem_withLeading_leading _ _ hk8 k.isLt).trans (if_pos hk)
    have hrestored : (((c.saved x).withBytes v).restored x).registers.get k =
        if k.val < x.val + 1 then (c.saved x).registers.rpl[k.val] else v.get k :=
      getElem_withLeading_leading v (c.saved x).registers.rpl k.isLt hk8
    rw [hrestored, if_pos hk, if_pos hk, hsaved]
  · rw [if_neg hk]
    have hbehind := Nat.le_trans (length_leading_le (c.saved x).registers.rpl _) (Nat.not_lt.1 hk)
    exact getElem_withLeading_of_le v k.isLt hbehind

/-- What was saved is restored, whatever the registers held in between. -/
theorem flagsReturn (x : FlagRegister) (v : Vector UInt8 16) :
    c.FlagsReturn x v (c.saved x) (((c.saved x).withBytes v).restored x) where
  slice := by
    have hlength := length_leading c.registers.v ⟨x.val, Nat.lt_trans x.isLt (by decide)⟩
    have hslice := toList_withLeading c.registers.rpl (Nat.le_trans (Nat.le_of_eq hlength) x.isLt)
    rw [hlength] at hslice
    refine hslice.trans ?_
    rw [leading]
  length := Vector.length_toList
  flags k hk :=
    (getElem_withLeading_leading _ _ k.isLt (by omega)).trans
      (if_neg (Nat.not_lt.2 (Nat.succ_le_of_lt hk)))
  others := rfl
  restored k hk := (get_restored_saved x v k).trans (if_pos (Nat.lt_succ_of_le hk))
  overwritten k hk := (get_restored_saved x v k).trans (if_neg (Nat.not_lt.2 hk))
  rest := rfl

/-! ## Decimal digits -/

/-- What storing the decimal digits of a register leaves of a core. -/
structure StoresDecimal (c : Core) (x : Register) (stored : Core) : Prop where
  digits : ∃ d₀ d₁ d₂ : UInt8,
    stored.indexed 3 = [d₀, d₁, d₂] ∧ d₀ ≤ 9 ∧ d₁ ≤ 9 ∧ d₂ ≤ 9 ∧
      100 * d₀.toNat + 10 * d₁.toNat + d₂.toNat = (c.registers.get x).toNat
  elsewhere : ∀ a, a < c.registers.i.toNat ∨ c.registers.i.toNat + 2 < a →
    stored.memory.byteAt a = c.memory.byteAt a
  /-- Neither the byte registers nor the index register change. -/
  others : stored = { c with memory := stored.memory, registers := c.registers.advance false }

/-- The decimal digits of a byte are digits, and they make up the byte. -/
theorem decimalDigits_spec (b : UInt8) :
    b / 100 ≤ 9 ∧ b / 10 % 10 ≤ 9 ∧ b % 10 ≤ 9 ∧
      100 * (b / 100).toNat + 10 * (b / 10 % 10).toNat + (b % 10).toNat = b.toNat := by
  have hhundred : (100 : UInt8).toNat = 100 := rfl
  have hten : (10 : UInt8).toNat = 10 := rfl
  have hnine : (9 : UInt8).toNat = 9 := rfl
  have := b.toNat_lt
  simp only [UInt8.le_iff_toNat_le, UInt8.toNat_div, UInt8.toNat_mod, hhundred, hten, hnine]
  omega

theorem execute_ldDecimal (h : c.registers.i.toNat ≤ 0xFFD) (keys : Keys) (x : Register) :
    c.execute keys (.ldDecimal x) = (.ok (), c.stored (decimalDigits (c.registers.get x))) := by
  show c.storeBytes _ = _
  have hfit : c.overrun? (decimalDigits (c.registers.get x)).length = none :=
    overrun?_eq_none (show _ + 3 ≤ 0x1000 by omega)
  rw [storeBytes_eq, hfit]
  rfl

/-- The three digits stand behind the index. -/
theorem storesDecimal (h : c.registers.i.toNat ≤ 0xFFD) (x : Register) :
    c.StoresDecimal x (c.stored (decimalDigits (c.registers.get x))) where
  digits := by
    have hfit : c.registers.i.toNat + (decimalDigits (c.registers.get x)).length ≤ 0x1000 :=
      show _ + 3 ≤ 0x1000 by omega
    exact ⟨_, _, _, indexed_stored hfit, decimalDigits_spec (c.registers.get x)⟩
  elsewhere a ha := Ram.byteAt_place_of_outside _ (show _ ∨ _ + 3 ≤ a by omega)
  others := rfl

/-! ## Everything together -/

/-- **A block of registers that was stored comes back**, whatever the byte registers were
overwritten with, and the digits that are stored of a byte are its decimal digits. -/
theorem transfers_round_trip (c : Core) (keys : Keys) :
    (∀ x : Register, c.registers.i.toNat + x.val ≤ 0xFFF →
      ∃ stored, c.execute keys (.store x) = (.ok (), stored) ∧
        ∀ (v : Vector UInt8 16) (keys' : Keys), ∃ loaded,
          (stored.withBytes v).execute keys' (.load x) = (.ok (), loaded) ∧
            c.BlockReturns x v stored loaded) ∧
      (∀ x : FlagRegister,
        ∃ saved, c.execute keys (.saveFlags x) = (.ok (), saved) ∧
          ∀ (v : Vector UInt8 16) (keys' : Keys), ∃ restored,
            (saved.withBytes v).execute keys' (.restoreFlags x) = (.ok (), restored) ∧
              c.FlagsReturn x v saved restored) ∧
      ∀ x : Register, c.registers.i.toNat ≤ 0xFFD →
        ∃ stored, c.execute keys (.ldDecimal x) = (.ok (), stored) ∧ c.StoresDecimal x stored := by
  refine ⟨?blocks, ?flags, ?decimal⟩
  case blocks =>
    intro x h
    refine ⟨_, execute_store h keys, ?_⟩
    intro v keys'
    have hload : ((c.stored (leading c.registers.v (x.val + 1))).withBytes v).registers.i.toNat +
        x.val ≤ 0xFFF := h
    exact ⟨_, execute_load hload keys', blockReturns h v⟩
  case flags =>
    intro x
    refine ⟨c.saved x, execute_saveFlags keys x, ?_⟩
    intro v keys'
    exact ⟨((c.saved x).withBytes v).restored x, execute_restoreFlags keys' x, flagsReturn x v⟩
  case decimal =>
    intro x h
    exact ⟨_, execute_ldDecimal h keys x, storesDecimal h x⟩

/-- All sixteen registers are stored in the last cells of the memory, and the digits of a byte just
before its end. -/
theorem transfers_round_trip_at_end :
    let c := { start [] ⟨.start 1 0 0, .start 1 0 0⟩ (.seeded 0) with
      registers := { Registers.initial with v := Vector.replicate 16 219, i := 0xFF0 } }
    let keys := Vector.replicate 16 false
    let v := Vector.replicate 16 0
    c.registers.i.toNat + 15 ≤ 0xFFF ∧ c.registers.i.toNat ≤ 0xFFD ∧
      (∃ stored loaded, (stored.withBytes v).execute keys (.load 15) = (.ok (), loaded) ∧
        c.BlockReturns 15 v stored loaded) ∧
      (∃ saved restored, (saved.withBytes v).execute keys (.restoreFlags 7) = (.ok (), restored) ∧
        c.FlagsReturn 7 v saved restored) ∧
      ∃ stored, c.execute keys (.ldDecimal 0) = (.ok (), stored) ∧ c.StoresDecimal 0 stored := by
  intro c keys v
  have hblock : c.registers.i.toNat + (15 : Register).val ≤ 0xFFF :=
    show 0xFF0 + 15 ≤ 0xFFF by decide
  have hdigits : c.registers.i.toNat ≤ 0xFFD := show 0xFF0 ≤ 0xFFD by decide
  obtain ⟨hblocks, hflags, hdecimal⟩ := transfers_round_trip c keys
  obtain ⟨stored, -, hstored⟩ := hblocks 15 hblock
  obtain ⟨saved, -, hsaved⟩ := hflags 7
  exact ⟨hblock, hdigits, ⟨stored, hstored v keys⟩, ⟨saved, hsaved v keys⟩, hdecimal 0 hdigits⟩

end Core

end SuperChip
