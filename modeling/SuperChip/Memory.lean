import SuperChip.Fault
import SuperChip.Glyph
import SuperChip.Invalid

/-!
# Memory

A memory is a row of byte cells. Every access names its first address and its length as
integers and is checked against the whole row before a cell is read or written, so that an
access either takes place completely or leaves everything as it was.

- `Memory size`: a memory of `size` cells; `Ram` is the one of a machine.
- `Memory.InBounds`: the accesses that a memory of a size admits.
- `Memory.load8`, `load16`, `read`, `store8`, `write`: the checked accesses.
- `Memory.place`: the effect of a write, cell by cell.
- `Memory.powerOn`: zeros with the glyph tables in place.

Models `Memory.reset`, `load_program`, `check_range`, `load8`, `load16`, `read_block` and
`snapshot`.
-/

namespace SuperChip

/-- A row of `size` byte cells. -/
structure Memory (size : Nat) where
  /-- The cells, by address. -/
  cells : Vector UInt8 size
deriving DecidableEq

namespace Memory

variable {size : Nat}

/-- All cells zero. -/
def blank (size : Nat) : Memory size := ⟨Vector.replicate size 0⟩

/-- The number of cells for a requested size, which has to be positive and to have room. -/
def sizeOf? (room : Room) (requested : Int) : Except Invalid Nat :=
  if requested ≤ 0 then .error .memorySize
  else (Invalid.checkRoom room requested 1).map fun _ => requested.toNat

/-- An access to `length` cells from `address` on stays inside a memory of `size` cells. -/
def InBounds (size : Nat) (address length : Int) : Prop :=
  0 ≤ address ∧ 0 ≤ length ∧ address + length ≤ size

instance (size : Nat) (address length : Int) : Decidable (InBounds size address length) :=
  inferInstanceAs (Decidable (_ ∧ _ ∧ _))

/-- Refuses an access that leaves the memory. -/
def check (_ : Memory size) (address length : Int) : Except Fault Unit :=
  if InBounds size address length then .ok () else .error (.outOfBounds address length)

/-! ## Reading -/

/-- The cell at `address`. -/
def load8 (m : Memory size) (address : Int) : Except Fault UInt8 :=
  if h : InBounds size address 1 then
    .ok (m.cells.get ⟨address.toNat, by obtain ⟨h₀, _, h₂⟩ := h; omega⟩)
  else .error (.outOfBounds address 1)

/-- The word of two bytes, the one at the lower address being the higher half. -/
def wordOf (high low : UInt8) : UInt16 := UInt16.ofNat (high.toNat * 256 + low.toNat)

/-- The word in the two cells from `address` on. -/
def load16 (m : Memory size) (address : Int) : Except Fault UInt16 :=
  if h : InBounds size address 2 then
    .ok (wordOf (m.cells.get ⟨address.toNat, by obtain ⟨h₀, _, h₂⟩ := h; omega⟩)
      (m.cells.get ⟨address.toNat + 1, by obtain ⟨h₀, _, h₂⟩ := h; omega⟩))
  else .error (.outOfBounds address 2)

/-- The cells from `start` to before `stop`, as far as they exist. -/
def slice (m : Memory size) (start stop : Nat) : List UInt8 :=
  (m.cells.toArray.extract start stop).toList

/-- The `length` cells from `address` on. -/
def read (m : Memory size) (address length : Int) : Except Fault (List UInt8) :=
  if InBounds size address length then
    .ok (m.slice address.toNat (address + length).toNat)
  else .error (.outOfBounds address length)

/-! ## Writing -/

/-- Puts bytes into the cells from `address` on; bytes beyond the last cell are dropped. -/
def place (m : Memory size) (address : Nat) : List UInt8 → Memory size
  | [] => m
  | b :: rest => place ⟨m.cells.setIfInBounds address b⟩ (address + 1) rest

/-- Replaces the cells from `address` on by `bytes`. -/
def write (m : Memory size) (address : Int) (bytes : List UInt8) :
    Except Fault (Memory size) :=
  if InBounds size address bytes.length then .ok (m.place address.toNat bytes)
  else .error (.outOfBounds address bytes.length)

/-- Replaces the cell at `address`. -/
def store8 (m : Memory size) (address : Int) (byte : UInt8) : Except Fault (Memory size) :=
  m.write address [byte]

/-! ## Programs -/

/-- Where programs start. -/
def programStart : Nat := 0x200

/-- Copies a program to where programs start. -/
def loadProgram (m : Memory size) (program : List UInt8) : Except Fault (Memory size) :=
  if program.length > programCapacity then .error (.programTooLarge program.length)
  else m.write programStart program

/-- Zeroes every cell and puts the glyph tables in place. A memory that is too small for a
table keeps what was done before it. -/
def powerOn (size : Nat) : Memory size × Except Fault Unit :=
  let zeros := blank size
  match zeros.write Glyph.smallBase Glyph.small with
  | .error f => (zeros, .error f)
  | .ok withSmall =>
    match withSmall.write Glyph.largeBase Glyph.large with
    | .error f => (withSmall, .error f)
    | .ok seeded => (seeded, .ok ())

/-! ## What the accesses do to the cells -/

/-- A write changes the cells it covers, to the bytes in order, and no other. -/
theorem getElem_place (m : Memory size) (address : Nat) (bytes : List UInt8) (i : Nat)
    (hi : i < size) :
    (m.place address bytes).cells[i] =
      if h : address ≤ i ∧ i < address + bytes.length then
        bytes[i - address]
      else m.cells[i] := by
  induction bytes generalizing m address with
  | nil =>
    have : ¬ (address ≤ i ∧ i < address + ([] : List UInt8).length) := by simp
    rw [dif_neg this, place]
  | cons b rest ih =>
    rw [place, ih]
    by_cases h : address + 1 ≤ i ∧ i < address + 1 + rest.length
    · have h' : address ≤ i ∧ i < address + (b :: rest).length := by
        simp only [List.length_cons]; omega
      have hs : i - address = i - (address + 1) + 1 := by omega
      rw [dif_pos h, dif_pos h']
      simp [hs]
    · rw [dif_neg h]
      by_cases ha : address = i
      · subst ha
        simp
      · have h' : ¬ (address ≤ i ∧ i < address + (b :: rest).length) := by
          simp only [List.length_cons]; omega
        rw [dif_neg h']
        simp [ha]

/-- A write that fits leaves what stands before it and what stands behind it. -/
theorem toList_place (m : Memory size) (address : Nat) (bytes : List UInt8)
    (h : address + bytes.length ≤ size) :
    (m.place address bytes).cells.toList =
      m.cells.toList.take address ++ bytes ++ m.cells.toList.drop (address + bytes.length) := by
  have hm : m.cells.toList.length = size := Vector.length_toList
  refine List.ext_getElem (by simp; omega) fun k hk _ => ?_
  rw [Vector.length_toList] at hk
  rw [Vector.getElem_toList, getElem_place]
  by_cases hbefore : k < address
  · rw [dif_neg (by omega), List.getElem_append_left (by simp; omega),
      List.getElem_append_left (by simp; omega), List.getElem_take, Vector.getElem_toList]
  · by_cases hcovered : k < address + bytes.length
    · rw [dif_pos ⟨Nat.le_of_not_lt hbefore, hcovered⟩,
        List.getElem_append_left (by simp; omega), List.getElem_append_right (by simp; omega)]
      congr 1
      simp
      omega
    · rw [dif_neg (fun hc => hcovered hc.2), List.getElem_append_right (by simp; omega),
        List.getElem_drop, Vector.getElem_toList]
      congr 1
      simp
      omega

theorem length_slice (m : Memory size) (start stop : Nat) :
    (m.slice start stop).length = min stop size - start := by
  rw [slice, Array.length_toList, Array.size_extract, Vector.size_toArray]

/-- A slice ends with the memory. -/
theorem slice_min (m : Memory size) (start stop : Nat) :
    m.slice start (min stop size) = m.slice start stop := by
  have hlength : m.cells.toArray.toList.length = size := by simp
  rw [slice, slice, Array.toList_extract, Array.toList_extract, List.extract_eq_take_drop,
    List.extract_eq_take_drop, List.take_eq_take_iff, List.length_drop, hlength]
  omega

/-- What was written is read back. -/
theorem slice_place (m : Memory size) (address : Nat) (bytes : List UInt8)
    (h : address + bytes.length ≤ size) :
    (m.place address bytes).slice address (address + bytes.length) = bytes := by
  refine List.ext_getElem (by simp [slice]; omega) fun k _ hk => ?_
  have hcovered : address ≤ address + k ∧ address + k < address + bytes.length := by omega
  simp only [slice, Array.getElem_toList, Array.getElem_extract, Vector.getElem_toArray]
  rw [getElem_place, dif_pos hcovered]
  simp only [Nat.add_sub_cancel_left]

end Memory

/-- The memory of a machine: 4096 cells. -/
abbrev Ram := Memory 0x1000

namespace Ram

/-- The last address. -/
def lastAddress : Int := 0xFFF

/-- The memory of a machine that holds `program` and was not yet used. -/
def boot (program : List UInt8) : Ram :=
  (Memory.powerOn 0x1000).1.place Memory.programStart program

end Ram

end SuperChip
