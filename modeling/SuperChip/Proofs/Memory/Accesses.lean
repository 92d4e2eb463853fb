import Mathlib.Data.List.Basic
import Mathlib.Data.List.Induction
import SuperChip.Memory.Access

/-!
# What a memory remembers

A memory checks an access against all of its cells before it reads or writes one of them. Whether
the access is carried out is therefore a matter of its bounds alone, and what is read later is a
matter of the accesses that were carried out before. How many cells there are is part of the type of
a memory, so that no access can change it.

- `Memory.outcome`, `on_attempt`: **an access does what the functions of the processor do**, and one
  that fails leaves the memory as it was.
- `Access.Admitted`: the accesses that a memory carries out; `Access.refusal` is what the others
  meet.
- `Access.Stores`: what an access puts into a cell; `getElem?_perform` is a cell after one access.
- `Access.Reads`: an answer tells what is in the cells; `reads_of_outcome`.
- `Memory.LastStored`: the byte that was put into a cell last; `getElem?_after` is a cell after a
  row of accesses.
- `accesses_are_exact`: **accesses take place completely or not at all, and reading tells what was
  stored last**.

About `Memory.load8`, `load16`, `store8`, `read_block`, `write_block` and `load_program`.
-/

namespace SuperChip.Memory

/-! ## Accesses -/

namespace Access

/-- The first cell of an access. -/
def address : Access → Int
  | load8 address | load16 address | read address _ | store8 address _ | write address _ => address
  | loadProgram _ => programStart

/-- The number of cells of an access. -/
def length : Access → Int
  | load8 _ | store8 .. => 1
  | load16 _ => 2
  | read _ length => length
  | write _ values => values.length
  | loadProgram program => program.length

/-- The values that an access puts into its cells. -/
def values : Access → List Int
  | load8 _ | load16 _ | read .. => []
  | store8 _ value => [value]
  | write _ values => values
  | loadProgram program => program.map fun b => (b.toNat : Int)

/-- The size of a program that is too large for any memory. -/
def excess? : Access → Option Nat
  | loadProgram program => if 0xE00 < program.length then some program.length else none
  | _ => none

/-- A memory of a size carries out an access: a program is not too large, and all cells exist. -/
def Admitted (size : Nat) (a : Access) : Prop :=
  a.excess? = none ∧ InBounds size a.address a.length

instance (size : Nat) (a : Access) : Decidable (a.Admitted size) :=
  inferInstanceAs (Decidable (_ ∧ _))

/-- What an access meets that is not carried out. -/
def refusal (a : Access) : Fault :=
  match a.excess? with
  | some n => .programTooLarge n
  | none => .outOfBounds a.address a.length

/-- An access puts something into a cell. -/
def Covers (size : Nat) (a : Access) (i : Nat) : Prop :=
  a.Admitted size ∧ a.address ≤ i ∧ i < a.address + a.values.length

/-- An access puts a byte into a cell, which keeps a value modulo 256. -/
def Stores (size : Nat) (a : Access) (i : Nat) (b : UInt8) : Prop :=
  a.Admitted size ∧ ∃ (k : Nat) (v : Int), a.values[k]? = some v ∧ (i : Int) = a.address + k ∧
    (b.toNat : Int) = v % 256

/-- An answer tells what is in the cells of an access. The higher half of a word is in the first
one. -/
def Reads (holds : Nat → UInt8 → Prop) : Access → Answer → Prop
  | load8 address, .byte b => holds address.toNat b
  | load16 address, .word w =>
    ∃ high low, holds address.toNat high ∧ holds (address.toNat + 1) low ∧
      w.toNat = high.toNat * 256 + low.toNat
  | read address length, .bytes bytes =>
    bytes.length = length ∧ ∀ k b, bytes[k]? = some b → holds (address.toNat + k) b
  | store8 .., .done | write .., .done => True
  | loadProgram program, .loaded n => n = program.length
  | _, _ => False

/-- What is read of cells is read of what they hold. -/
theorem Reads.mono {holds holds' : Nat → UInt8 → Prop} (h : ∀ i b, holds i b → holds' i b)
    {a : Access} {answer : Answer} (hreads : a.Reads holds answer) : a.Reads holds' answer := by
  cases a <;> cases answer <;> try exact hreads
  case load8.byte address b => exact h _ _ hreads
  case load16.word address w =>
    obtain ⟨high, low, hhigh, hlow, hw⟩ := hreads
    exact ⟨high, low, h _ _ hhigh, h _ _ hlow, hw⟩
  case read.bytes address length bytes =>
    exact ⟨hreads.1, fun k b hb => h _ _ (hreads.2 k b hb)⟩

end Access

variable {size : Nat}

/-- The memory after an access. -/
def perform (m : Memory size) (a : Access) : Memory size := ((attempt a).on m).2

/-- The memory after one access after the other. -/
def after (m : Memory size) (log : List Access) : Memory size := log.foldl perform m

variable {m : Memory size} {a : Access}

/-- What the functions of the processor make of an access: the answer and the memory after it, or
why it is not carried out. -/
def outcome (m : Memory size) : Access → Except Fault (Answer × Memory size)
  | .load8 address => (m.load8 address).map fun b => (.byte b, m)
  | .load16 address => (m.load16 address).map fun w => (.word w, m)
  | .read address length => (m.read address length).map fun bytes => (.bytes bytes, m)
  | .store8 address value => (m.store8 address (UInt8.ofInt value)).map fun m' => (.done, m')
  | .write address values => (m.write address (values.map UInt8.ofInt)).map fun m' => (.done, m')
  | .loadProgram program => (m.loadProgram program).map fun m' => (.loaded program.length, m')

/-! ## One access after its check -/

theorem map_ofInt_toNat (bytes : List UInt8) :
    (bytes.map fun b => (b.toNat : Int)).map UInt8.ofInt = bytes := by
  rw [List.map_map]
  refine List.map_id'' (fun b => ?_) bytes
  have h : ((UInt8.ofInt b.toNat).toNat : Int) = b.toNat := by
    rw [toNat_ofInt_byte]
    have := b.toNat_lt
    omega
  exact UInt8.toNat_inj.1 (Int.ofNat_inj.1 h)

/-- A byte in bounds is read. -/
theorem load8_of_inBounds (m : Memory size) {address : Int} (h : InBounds size address 1) :
    ∃ b, m.load8 address = .ok b ∧ m.cells[address.toNat]? = some b := by
  have hlt : address.toNat < size := by
    obtain ⟨h₀, -, h₁⟩ := h
    omega
  exact ⟨_, dif_pos h, Vector.getElem?_eq_getElem hlt⟩

/-- A word in bounds is read, its high byte first. -/
theorem load16_of_inBounds (m : Memory size) {address : Int} (h : InBounds size address 2) :
    ∃ high low, m.load16 address = .ok (wordOf high low) ∧ m.cells[address.toNat]? = some high ∧
      m.cells[address.toNat + 1]? = some low := by
  have hlt : address.toNat + 1 < size := by
    obtain ⟨h₀, -, h₁⟩ := h
    omega
  exact ⟨_, _, dif_pos h, Vector.getElem?_eq_getElem (Nat.lt_of_succ_lt hlt),
    Vector.getElem?_eq_getElem hlt⟩

/-- An access in bounds is let through. -/
theorem on_require_of_inBounds (m : Memory size) {address length : Int}
    (h : InBounds size address length) : (require address length).on m = (.ok (), m) := by
  unfold require
  rw [Attempt.bind_of_ok (Attempt.on_get m), Attempt.on_ofExcept, check, if_pos h]

/-- One that is not is refused before anything is changed. -/
theorem on_require_of_not_inBounds (m : Memory size) {address length : Int}
    (h : ¬ InBounds size address length) :
    (require address length).on m = (.error (.outOfBounds address length), m) := by
  unfold require
  rw [Attempt.bind_of_ok (Attempt.on_get m), Attempt.on_ofExcept, check, if_neg h]

/-- A block that is not in bounds is refused. -/
theorem write_eq_error (m : Memory size) {address : Int} {bytes : List UInt8}
    (h : ¬ InBounds size address bytes.length) :
    m.write address bytes = .error (.outOfBounds address bytes.length) := if_neg h

/-- A block in bounds is put into its place. -/
theorem write_eq_ok (m : Memory size) {address : Int} {bytes : List UInt8}
    (h : InBounds size address bytes.length) :
    m.write address bytes = .ok (m.place address.toNat bytes) := if_pos h

/-- Cell after cell the whole block is put into its place. -/
theorem on_putAll (m : Memory size) (address : Nat) (values : List Int) :
    (putAll address values).on m = (.ok (), m.place address (values.map UInt8.ofInt)) := by
  induction values generalizing m address with
  | nil => rfl
  | cons v rest ih =>
    unfold putAll put
    rw [Attempt.bind_of_ok (Attempt.on_modify _ m), ih]
    rfl

theorem on_putBlock (m : Memory size) (address : Int) (values : List Int) :
    (putBlock address values).on m =
      match m.write address (values.map UInt8.ofInt) with
      | .ok m' => (.ok (), m')
      | .error f => (.error f, m) := by
  unfold putBlock
  by_cases h : InBounds size address values.length
  · rw [Attempt.bind_of_ok (m.on_require_of_inBounds h), on_putAll,
      write_eq_ok m (by rwa [List.length_map])]
  · rw [Attempt.bind_of_error (m.on_require_of_not_inBounds h),
      write_eq_error m (by rwa [List.length_map]), List.length_map]

/-- A cell that is there is read. -/
theorem on_cell {i : Nat} {b : UInt8} (h : m.cells[i]? = some b) : (cell i).on m = (.ok b, m) := by
  show (Except.ok (m.cells[i]?.getD 0), m) = _
  rw [h]
  rfl

/-- **An access does what the functions of the processor do**, and one that fails leaves the memory
as it was. -/
theorem on_attempt (m : Memory size) (a : Access) :
    (attempt a).on m =
      match m.outcome a with
      | .ok (answer, m') => (.ok answer, m')
      | .error f => (.error f, m) := by
  cases a with
  | load8 address =>
    rw [attempt, outcome]
    by_cases h : InBounds size address 1
    · obtain ⟨b, hb, hcell⟩ := m.load8_of_inBounds h
      rw [Attempt.bind_of_ok (m.on_require_of_inBounds h), Attempt.bind_of_ok (on_cell hcell), hb]
      rfl
    · have hload : m.load8 address = .error (.outOfBounds address 1) := dif_neg h
      rw [Attempt.bind_of_error (m.on_require_of_not_inBounds h), hload]
      rfl
  | load16 address =>
    rw [attempt, outcome]
    by_cases h : InBounds size address 2
    · obtain ⟨high, low, hword, hhigh, hlow⟩ := m.load16_of_inBounds h
      rw [Attempt.bind_of_ok (m.on_require_of_inBounds h), Attempt.bind_of_ok (on_cell hhigh),
        Attempt.bind_of_ok (on_cell hlow), hword]
      rfl
    · have hload : m.load16 address = .error (.outOfBounds address 2) := dif_neg h
      rw [Attempt.bind_of_error (m.on_require_of_not_inBounds h), hload]
      rfl
  | read address length =>
    rw [attempt, outcome]
    by_cases h : InBounds size address length
    · rw [Attempt.bind_of_ok (m.on_require_of_inBounds h), Memory.read, if_pos h]
      rfl
    · rw [Attempt.bind_of_error (m.on_require_of_not_inBounds h), Memory.read, if_neg h]
      rfl
  | store8 address value =>
    rw [attempt, outcome]
    by_cases h : InBounds size address 1
    · have hstore : m.store8 address (UInt8.ofInt value) =
          .ok (m.place address.toNat [UInt8.ofInt value]) := m.write_eq_ok h
      rw [Attempt.bind_of_ok (m.on_require_of_inBounds h), hstore]
      rfl
    · have hstore : m.store8 address (UInt8.ofInt value) = .error (.outOfBounds address 1) :=
        if_neg h
      rw [Attempt.bind_of_error (m.on_require_of_not_inBounds h), hstore]
      rfl
  | write address values =>
    have hblock := m.on_putBlock address values
    rw [attempt, outcome]
    cases hwrite : m.write address (values.map UInt8.ofInt) with
    | error f =>
      rw [hwrite] at hblock
      exact Attempt.bind_of_error hblock
    | ok m' =>
      rw [hwrite] at hblock
      exact Attempt.bind_of_ok hblock
  | loadProgram program =>
    have hblock := m.on_putBlock programStart (program.map fun b => (b.toNat : Int))
    rw [map_ofInt_toNat] at hblock
    rw [attempt, outcome, loadProgram]
    by_cases hlarge : program.length > programCapacity
    · rw [if_pos hlarge, if_pos hlarge]
      rfl
    · rw [if_neg hlarge, if_neg hlarge]
      cases hwrite : m.write programStart program with
      | error f =>
        rw [hwrite] at hblock
        exact Attempt.bind_of_error hblock
      | ok m' =>
        rw [hwrite] at hblock
        exact Attempt.bind_of_ok hblock

/-! ## One access -/

theorem getElem?_slice (m : Memory size) {start stop k : Nat} (hk : start + k < stop) :
    (m.slice start stop)[k]? = m.cells[start + k]? := by
  rw [slice, Array.toList_extract, List.extract_eq_take_drop, List.getElem?_take_of_lt (by omega),
    List.getElem?_drop, Array.getElem?_toList, Vector.getElem?_toArray]

/-- The high byte of a word counts 256 times. -/
theorem toNat_wordOf (high low : UInt8) :
    (wordOf high low).toNat = high.toNat * 256 + low.toNat := by
  have := high.toNat_lt
  have := low.toNat_lt
  rw [wordOf, UInt16.toNat_ofNat_of_lt' (by simp only [UInt16.size]; omega)]

/-- What is not admitted meets its refusal. -/
theorem outcome_of_not_admitted (h : ¬ a.Admitted size) : m.outcome a = .error a.refusal := by
  have hout : a.excess? = none → ¬ InBounds size a.address a.length :=
    fun hfits hin => h ⟨hfits, hin⟩
  cases a with
  | load8 address =>
    have hload : m.load8 address = .error (.outOfBounds address 1) := dif_neg (hout rfl)
    rw [outcome, hload]
    rfl
  | load16 address =>
    have hload : m.load16 address = .error (.outOfBounds address 2) := dif_neg (hout rfl)
    rw [outcome, hload]
    rfl
  | read address length =>
    have hread : m.read address length = .error (.outOfBounds address length) := if_neg (hout rfl)
    rw [outcome, hread]
    rfl
  | store8 address value =>
    have hstore : m.store8 address (UInt8.ofInt value) = .error (.outOfBounds address 1) :=
      if_neg (hout rfl)
    rw [outcome, hstore]
    rfl
  | write address values =>
    have hbytes : ¬ InBounds size address (values.map UInt8.ofInt).length := by
      rw [List.length_map]
      exact hout rfl
    rw [outcome, m.write_eq_error hbytes, List.length_map]
    rfl
  | loadProgram program =>
    by_cases hlarge : 0xE00 < program.length
    · have hload : m.loadProgram program = .error (.programTooLarge program.length) := if_pos hlarge
      have hrefusal : (Access.loadProgram program).refusal = .programTooLarge program.length := by
        simp only [Access.refusal, Access.excess?, if_pos hlarge]
      rw [outcome, hload, hrefusal]
      rfl
    · have hfits : (Access.loadProgram program).excess? = none := if_neg hlarge
      have hload : m.loadProgram program = .error (.outOfBounds programStart program.length) :=
        (if_neg hlarge).trans (m.write_eq_error (hout hfits))
      rw [outcome, hload, Access.refusal, hfits]
      rfl

/-- What is admitted is carried out: its values are put into its cells, and its answer tells what
was in them. -/
theorem outcome_of_admitted (h : a.Admitted size) :
    ∃ answer, m.outcome a = .ok (answer, m.place a.address.toNat (a.values.map UInt8.ofInt)) ∧
      a.Reads (fun i b => m.cells[i]? = some b) answer := by
  obtain ⟨hfits, hin⟩ := h
  cases a with
  | load8 address =>
    obtain ⟨b, hb, hcell⟩ := m.load8_of_inBounds (show InBounds size address 1 from hin)
    exact ⟨.byte b, by rw [outcome, hb]; rfl, hcell⟩
  | load16 address =>
    obtain ⟨high, low, hword, hhigh, hlow⟩ :=
      m.load16_of_inBounds (show InBounds size address 2 from hin)
    exact ⟨.word (wordOf high low), by rw [outcome, hword]; rfl, high, low, hhigh, hlow,
      toNat_wordOf high low⟩
  | read address length =>
    have hread : m.read address length =
        .ok (m.slice address.toNat (address + length).toNat) := if_pos hin
    have hbounds : 0 ≤ address ∧ 0 ≤ length ∧ address + length ≤ size := hin
    refine ⟨.bytes (m.slice address.toNat (address + length).toNat), by rw [outcome, hread]; rfl,
      ?_, ?_⟩
    · rw [length_slice]
      omega
    · intro k b hb
      have hk := (List.getElem?_eq_some_iff.1 hb).1
      rw [length_slice] at hk
      have hinside : address.toNat + k < (address + length).toNat := by omega
      rw [← m.getElem?_slice hinside]
      exact hb
  | store8 address value =>
    have hstore : m.store8 address (UInt8.ofInt value) =
        .ok (m.place address.toNat [UInt8.ofInt value]) := m.write_eq_ok hin
    exact ⟨.done, by rw [outcome, hstore]; rfl, trivial⟩
  | write address values =>
    have hbytes : InBounds size address (values.map UInt8.ofInt).length := by
      rw [List.length_map]
      exact hin
    exact ⟨.done, by rw [outcome, m.write_eq_ok hbytes]; rfl, trivial⟩
  | loadProgram program =>
    have hsmall : ¬ 0xE00 < program.length := by
      intro hlarge
      rw [Access.excess?, if_pos hlarge] at hfits
      cases hfits
    have hload : m.loadProgram program = .ok (m.place programStart program) :=
      (if_neg hsmall).trans (m.write_eq_ok hin)
    exact ⟨.loaded program.length, by rw [outcome, hload, Access.values, map_ofInt_toNat]; rfl, rfl⟩

/-- An admitted access stores its values and nothing else. -/
theorem perform_of_admitted (h : a.Admitted size) :
    m.perform a = m.place a.address.toNat (a.values.map UInt8.ofInt) := by
  obtain ⟨answer, hanswer, -⟩ := outcome_of_admitted (m := m) h
  rw [perform, on_attempt, hanswer]

/-- An access that is not carried out leaves the memory as it was. -/
theorem perform_of_not_admitted (h : ¬ a.Admitted size) : m.perform a = m := by
  rw [perform, on_attempt, outcome_of_not_admitted h]

/-- An access is carried out if all of its cells exist, and then only. -/
theorem outcome_eq_ok_iff : (∃ done, m.outcome a = .ok done) ↔ a.Admitted size := by
  constructor
  · rintro ⟨done, hdone⟩
    by_contra h
    rw [outcome_of_not_admitted h] at hdone
    cases hdone
  · intro h
    obtain ⟨answer, hanswer, -⟩ := outcome_of_admitted (m := m) h
    exact ⟨_, hanswer⟩

/-- An answer tells what was in the cells. -/
theorem reads_of_outcome {answer : Answer} {m' : Memory size}
    (h : m.outcome a = .ok (answer, m')) : a.Reads (fun i b => m.cells[i]? = some b) answer := by
  obtain ⟨answer', hanswer, hreads⟩ := outcome_of_admitted (outcome_eq_ok_iff.1 ⟨_, h⟩)
  cases h.symm.trans hanswer
  exact hreads

/-! ## The cells after one access -/

theorem Access.length_values (h : a.Admitted size) : a.address + a.values.length ≤ size := by
  obtain ⟨-, h₀, h₁, h₂⟩ := h
  cases a <;> simp only [values, length, address, List.length_nil, List.length_cons,
    List.length_map] at * <;> omega

theorem Access.Stores.covers {i : Nat} {b : UInt8} (h : a.Stores size i b) : a.Covers size i := by
  obtain ⟨hadmitted, k, v, hv, hi, -⟩ := h
  have hk : k < a.values.length := (List.getElem?_eq_some_iff.1 hv).1
  exact ⟨hadmitted, by omega, by omega⟩

theorem toNat_eq_emod_iff {b : UInt8} {v : Int} :
    (b.toNat : Int) = v % 256 ↔ UInt8.ofInt v = b := by
  rw [← toNat_ofInt_byte, Int.ofNat_inj, UInt8.toNat_inj, eq_comm]

theorem getElem?_place {start k : Nat} {bytes : List UInt8} (h : start + bytes.length ≤ size)
    (hk : k < bytes.length) : (m.place start bytes).cells[start + k]? = some bytes[k] := by
  have hcovered : start ≤ start + k ∧ start + k < start + bytes.length := by omega
  rw [Vector.getElem?_eq_getElem (by omega), getElem_place, dif_pos hcovered]
  simp only [Nat.add_sub_cancel_left]

/-- Cells outside a block stay as they are. -/
theorem getElem?_place_of_outside {start i : Nat} {bytes : List UInt8}
    (h : ¬ (start ≤ i ∧ i < start + bytes.length)) :
    (m.place start bytes).cells[i]? = m.cells[i]? := by
  by_cases hi : i < size
  · rw [Vector.getElem?_eq_getElem hi, Vector.getElem?_eq_getElem hi, getElem_place, dif_neg h]
  · rw [Vector.getElem?_eq_none (Nat.le_of_not_lt hi),
      Vector.getElem?_eq_none (Nat.le_of_not_lt hi)]

/-- A cell that an access covers holds the value for it. -/
theorem getElem?_perform_of_admitted (h : a.Admitted size) {k : Nat} {v : Int}
    (hv : a.values[k]? = some v) :
    (m.perform a).cells[a.address.toNat + k]? = some (UInt8.ofInt v) := by
  obtain ⟨hk, rfl⟩ := List.getElem?_eq_some_iff.1 hv
  have hlast := Access.length_values h
  have hfirst : 0 ≤ a.address := h.2.1
  rw [perform_of_admitted h, getElem?_place (by rw [List.length_map]; omega)
    (by rw [List.length_map]; exact hk), List.getElem_map]

/-- A cell that an access does not cover is left as it was. -/
theorem getElem?_perform_of_outside {i : Nat}
    (h : ¬ (a.address ≤ i ∧ i < a.address + a.values.length)) :
    (m.perform a).cells[i]? = m.cells[i]? := by
  by_cases hadmitted : a.Admitted size
  · have hfirst : 0 ≤ a.address := hadmitted.2.1
    rw [perform_of_admitted hadmitted, getElem?_place_of_outside (by rw [List.length_map]; omega)]
  · rw [perform_of_not_admitted hadmitted]

/-- A cell after an access holds what the access put into it, and otherwise what it held before. -/
theorem getElem?_perform (m : Memory size) (a : Access) (i : Nat) (b : UInt8) :
    (m.perform a).cells[i]? = some b ↔
      a.Stores size i b ∨ ¬ a.Covers size i ∧ m.cells[i]? = some b := by
  by_cases hcovers : a.Covers size i
  · have hadmitted := hcovers.1
    have hbounds := hcovers.2
    have hfirst : 0 ≤ a.address := hadmitted.2.1
    obtain ⟨k, hk⟩ : ∃ k : Nat, (i : Int) = a.address + k := ⟨(i - a.address).toNat, by omega⟩
    obtain ⟨v, hv⟩ : ∃ v, a.values[k]? = some v :=
      ⟨_, List.getElem?_eq_getElem (by omega)⟩
    have hcell : (m.perform a).cells[i]? = some (UInt8.ofInt v) := by
      rw [show i = a.address.toNat + k by omega]
      exact getElem?_perform_of_admitted hadmitted hv
    have hstores : a.Stores size i b ↔ UInt8.ofInt v = b := by
      rw [← toNat_eq_emod_iff]
      constructor
      · rintro ⟨-, k', v', hv', hk', hb⟩
        obtain rfl : k = k' := by omega
        cases hv.symm.trans hv'
        exact hb
      · exact fun hb => ⟨hadmitted, k, v, hv, hk, hb⟩
    simp only [hcell, Option.some_inj, hstores, hcovers, not_true_eq_false, false_and, or_false]
  · have hstores : ¬ a.Stores size i b := fun h => hcovers h.covers
    have hkept : (m.perform a).cells[i]? = m.cells[i]? := by
      by_cases hadmitted : a.Admitted size
      · exact getElem?_perform_of_outside fun h => hcovers ⟨hadmitted, h⟩
      · rw [perform_of_not_admitted hadmitted]
    simp only [hkept, hstores, hcovers, false_or, not_false_iff, true_and]

/-! ## Rows of accesses -/

/-- A byte was put into a cell by the last of the accesses that put something there; if there is
none it was there from the start. -/
def LastStored (m : Memory size) (log : List Access) (i : Nat) (b : UInt8) : Prop :=
  (∃ earlier a later, log = earlier ++ a :: later ∧ a.Stores size i b ∧
    ∀ a' ∈ later, ¬ a'.Covers size i) ∨
  (∀ a ∈ log, ¬ a.Covers size i) ∧ m.cells[i]? = some b

/-- Without any access a cell holds what it held. -/
theorem lastStored_nil {i : Nat} {b : UInt8} : m.LastStored [] i b ↔ m.cells[i]? = some b := by
  simp [LastStored]

/-- The last of one access more is that one, if it puts something into the cell. -/
theorem lastStored_concat {log : List Access} {i : Nat} {b : UInt8} :
    m.LastStored (log ++ [a]) i b ↔
      a.Stores size i b ∨ ¬ a.Covers size i ∧ m.LastStored log i b := by
  constructor
  · rintro (⟨earlier, a', later, hlog, hstores, hspared⟩ | ⟨hspared, hcell⟩)
    · obtain rfl | ⟨later, c, rfl⟩ := List.eq_nil_or_concat' later
      · obtain ⟨-, rfl⟩ := List.append_singleton_inj.1 hlog
        exact .inl hstores
      · rw [← List.cons_append, ← List.append_assoc] at hlog
        obtain ⟨rfl, rfl⟩ := List.append_singleton_inj.1 hlog
        refine .inr ⟨hspared _ (by simp), .inl ⟨earlier, a', later, rfl, hstores, ?_⟩⟩
        exact fun c hc => hspared c (List.mem_append_left _ hc)
    · refine .inr ⟨hspared a (by simp), .inr ⟨?_, hcell⟩⟩
      exact fun c hc => hspared c (List.mem_append_left _ hc)
  · rintro (hstores | ⟨hspares, ⟨earlier, a', later, rfl, hstores, hspared⟩ | ⟨hspared, hcell⟩⟩)
    · exact .inl ⟨log, a, [], rfl, hstores, by simp⟩
    · refine .inl ⟨earlier, a', later ++ [a], by simp, hstores, fun c hc => ?_⟩
      obtain hc | hc := List.mem_append.1 hc
      · exact hspared c hc
      · exact List.mem_singleton.1 hc ▸ hspares
    · refine .inr ⟨fun c hc => ?_, hcell⟩
      obtain hc | hc := List.mem_append.1 hc
      · exact hspared c hc
      · exact List.mem_singleton.1 hc ▸ hspares

theorem after_concat (log : List Access) : m.after (log ++ [a]) = (m.after log).perform a :=
  List.foldl_append

/-- **A cell holds what was put into it last.** -/
theorem getElem?_after (m : Memory size) (log : List Access) (i : Nat) (b : UInt8) :
    (m.after log).cells[i]? = some b ↔ m.LastStored log i b := by
  induction log using List.reverseRecOn generalizing b with
  | nil => exact lastStored_nil.symm
  | append_singleton log a ih => rw [after_concat, getElem?_perform, lastStored_concat, ih]

/-! ## Everything together -/

/-- What becomes of an access, and of the memory. -/
structure Exact (m : Memory size) (a : Access) : Prop where
  carriedOut_iff : (∃ answer m', (attempt a).on m = (.ok answer, m')) ↔ a.Admitted size
  refused : ¬ a.Admitted size → (attempt a).on m = (.error a.refusal, m)
  stored : a.Admitted size → ∀ (k : Nat) (v : Int), a.values[k]? = some v →
    ∃ b, (m.perform a).cells[a.address.toNat + k]? = some b ∧ (b.toNat : Int) = v % 256
  kept : ∀ i : Nat, ¬ (a.address ≤ i ∧ i < a.address + a.values.length) →
    (m.perform a).cells[i]? = m.cells[i]?
  reads : ∀ answer m', (attempt a).on m = (.ok answer, m') →
    a.Reads (fun i b => m.cells[i]? = some b) answer

/-- What is carried out is what the functions of the processor carry out. -/
theorem on_attempt_eq_ok_iff {answer : Answer} {m' : Memory size} :
    (attempt a).on m = (.ok answer, m') ↔ m.outcome a = .ok (answer, m') := by
  rw [on_attempt]
  cases m.outcome a with
  | error f => simp
  | ok done => simp [Prod.ext_iff]

/-- Every access is exact. -/
theorem access_exact (m : Memory size) (a : Access) : m.Exact a where
  carriedOut_iff := by
    rw [← outcome_eq_ok_iff (m := m), Prod.exists]
    simp only [on_attempt_eq_ok_iff]
  refused h := by rw [on_attempt, outcome_of_not_admitted h]
  stored h _ v hv := ⟨_, getElem?_perform_of_admitted h hv, toNat_ofInt_byte v⟩
  kept _ := getElem?_perform_of_outside
  reads _ _ h := reads_of_outcome (on_attempt_eq_ok_iff.1 h)

/-- **Accesses take place completely or not at all, and reading tells what was stored last.**
Loading a program that is not too large is writing it where programs start. -/
theorem accesses_are_exact (m : Memory size) (log : List Access) :
    (∀ a, (m.after log).Exact a) ∧
      (∀ program,
        let loaded := (attempt (.loadProgram program)).on (m.after log)
        let written :=
          (attempt (.write 0x200 (program.map fun b => (b.toNat : Int)))).on (m.after log)
        if 0xE00 < program.length then
          loaded = (.error (.programTooLarge program.length), m.after log)
        else loaded.1.map (fun _ => ()) = written.1.map (fun _ => ()) ∧ loaded.2 = written.2) ∧
      ∀ a answer m', (attempt a).on (m.after log) = (.ok answer, m') →
        a.Reads (m.LastStored log) answer := by
  refine ⟨(m.after log).access_exact, ?_, ?_⟩
  · intro program loaded written
    have hloaded : loaded = _ := (m.after log).on_attempt (.loadProgram program)
    have hwritten : written = _ := (m.after log).on_attempt (.write 0x200 _)
    by_cases hlarge : 0xE00 < program.length
    · have hload : (m.after log).loadProgram program = .error (.programTooLarge program.length) :=
        if_pos hlarge
      rw [if_pos hlarge, hloaded, outcome, hload]
      rfl
    · have hload : (m.after log).loadProgram program = (m.after log).write 0x200 program :=
        if_neg hlarge
      rw [if_neg hlarge, hloaded, hwritten, outcome, outcome, hload, map_ofInt_toNat]
      cases (m.after log).write 0x200 program with
      | error f => exact ⟨rfl, rfl⟩
      | ok m' => exact ⟨rfl, rfl⟩
  · intro a answer m' h
    exact (reads_of_outcome (on_attempt_eq_ok_iff.1 h)).mono fun i b => (getElem?_after m log i b).1

/-- A word needs two cells, but no cells at all are also found behind the last one. -/
example : ((attempt (.load16 3)).on (blank 4), (attempt (.read 4 0)).on (blank 4)) =
    ((.error (.outOfBounds 3 2), blank 4), (.ok (.bytes []), blank 4)) := rfl

end SuperChip.Memory
