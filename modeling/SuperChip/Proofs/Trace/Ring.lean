import Mathlib.Data.List.DropRight
import Mathlib.Data.List.Induction
import SuperChip.Trace

/-!
# A trace as a list

A trace keeps its entries in a ring, in which a new entry takes the place of the oldest one once
there is no room for both. From the outside it is the list of what was recorded since everything was
forgotten, less its beginning.

- `Trace.Call`, `Trace.after`: a call on a trace, and a row of calls; `Trace.recorded` is what they
  recorded since the last one that forgot everything.
- `Trace.HoldsLatest`: a trace holds the latest of a row of entries; `HoldsLatest.record` is one
  more entry, and `holdsLatest_after` a row of calls.
- `Trace.slot`: the place in the ring of one of the latest entries, counted back from where the next
  one goes; `getElem?_latest` finds them there.
- `ring_refines_list`: **a trace is a list of entries that is cut to its capacity**.

About `TraceRecorder.entries`, `last_entry`, `clear` and `format_entries`.
-/

namespace SuperChip

namespace Trace

variable {t : Trace} {entries : List Entry}

/-! ## The latest entries -/

/-- A trace holds the latest of a row of entries, as many as there is room for. -/
def HoldsLatest (t : Trace) (entries : List Entry) : Prop :=
  t.toList = entries.drop (entries.length - t.capacity)

theorem capacity_record (e : Entry) : (t.record e).capacity = t.capacity := by
  unfold record
  split <;> rfl

/-- A trace has as many entries as were recorded, up to its capacity. -/
theorem HoldsLatest.size_eq (h : t.HoldsLatest entries) :
    t.size = min entries.length t.capacity := by
  rw [← length_toList, h, List.length_drop]
  omega

/-- Recording one more entry keeps that. -/
theorem HoldsLatest.record (h : t.HoldsLatest entries) (e : Entry) :
    (t.record e).HoldsLatest (entries ++ [e]) := by
  have hsize := h.size_eq
  have hdropped : entries.length - t.capacity + (t.size + 1 - t.capacity) =
      entries.length + 1 - t.capacity := by omega
  calc (t.record e).toList
      = (entries.drop (entries.length - t.capacity) ++ [e]).drop (t.size + 1 - t.capacity) := by
        rw [toList_record, h]
    _ = ((entries ++ [e]).drop (entries.length - t.capacity)).drop (t.size + 1 - t.capacity) := by
        rw [List.drop_append_of_le_length (Nat.sub_le _ _)]
    _ = (entries ++ [e]).drop ((entries ++ [e]).length - (t.record e).capacity) := by
        rw [List.drop_drop, hdropped, capacity_record, List.length_append, List.length_singleton]

/-- A new trace has the capacity that was asked for, and holds nothing. -/
theorem eq_empty_of_ofCapacity? {room : Room} {capacity : Int}
    (h : ofCapacity? room capacity = .ok t) : ∃ positive, t = empty capacity.toNat positive := by
  unfold ofCapacity? at h
  split at h
  · cases hroom : Invalid.checkRoom room capacity Extent.reference with
    | error e =>
      rw [hroom] at h
      cases h
    | ok u =>
      rw [hroom] at h
      cases h
      exact ⟨_, rfl⟩
  · cases h

/-- A new trace is empty. -/
theorem toList_of_ofCapacity? {room : Room} {capacity : Int}
    (h : ofCapacity? room capacity = .ok t) : t.toList = [] := by
  obtain ⟨positive, rfl⟩ := eq_empty_of_ofCapacity? h
  exact toList_empty _ _

/-! ## Rows of calls -/

/-- A call that changes a trace. -/
inductive Call where
  | record (e : Entry)
  | clear
deriving DecidableEq, Repr

/-- The entry that a call records. -/
def Call.entry? : Call → Option Entry
  | record e => some e
  | clear => none

/-- The trace after a call. -/
def perform (t : Trace) : Call → Trace
  | .record e => t.record e
  | .clear => t.clear

/-- The trace after one call after the other. -/
def after (t : Trace) (calls : List Call) : Trace := calls.foldl perform t

/-- What was recorded since the last call that forgot everything, the oldest first. -/
def recorded (calls : List Call) : List Entry :=
  (calls.rtakeWhile fun c => c.entry?.isSome).filterMap Call.entry?

@[simp] theorem recorded_concat_record (calls : List Call) (e : Entry) :
    recorded (calls ++ [.record e]) = recorded calls ++ [e] := by
  rw [recorded, List.rtakeWhile_concat_pos _ _ _ rfl, List.filterMap_append]
  rfl

@[simp] theorem recorded_concat_clear (calls : List Call) :
    recorded (calls ++ [.clear]) = [] := by
  rw [recorded, List.rtakeWhile_concat_neg _ _ _ (by simp [Call.entry?]), List.filterMap_nil]

theorem after_concat (calls : List Call) (c : Call) :
    t.after (calls ++ [c]) = (t.after calls).perform c :=
  List.foldl_concat perform t c calls

/-- Calls leave the capacity. -/
theorem capacity_after (calls : List Call) : (t.after calls).capacity = t.capacity := by
  induction calls using List.reverseRecOn with
  | nil => rfl
  | append_singleton calls c ih =>
    rw [after_concat, ← ih]
    cases c with
    | record e => exact capacity_record e
    | clear => rfl

/-- After a row of calls a trace holds the latest of what they recorded. -/
theorem holdsLatest_after {capacity : Nat} (positive : 0 < capacity) (calls : List Call) :
    ((empty capacity positive).after calls).HoldsLatest (recorded calls) := by
  induction calls using List.reverseRecOn with
  | nil => exact (toList_empty capacity positive).trans List.drop_nil.symm
  | append_singleton calls c ih =>
    rw [after_concat]
    cases c with
    | record e =>
      rw [recorded_concat_record]
      exact ih.record e
    | clear =>
      rw [recorded_concat_clear]
      exact (toList_clear _).trans List.drop_nil.symm

/-! ## Places in the ring -/

/-- Where the next entry goes: behind the others as long as there is room, and then in place of the
oldest one. -/
def writeIndex (t : Trace) : Nat := if t.size < t.capacity then t.size else t.next

/-- The place of the entry at position `k` among the latest `count`, counted back from where the
next one goes. Before the first place comes the last one. -/
def slot (t : Trace) (count k : Nat) : Nat :=
  (((t.writeIndex : Int) - count + k) % t.capacity).toNat

theorem getElem?_toList {j : Nat} (hj : j < t.size) :
    t.toList[j]? = t.entries[(t.next + j) % t.capacity]? := by
  have hle : t.size ≤ t.capacity := t.size_le
  have hlt := t.next_lt
  have hlength : t.entries.toList.length = t.size := Array.length_toList
  rw [toList, List.getElem?_append, List.length_drop, ← Array.getElem?_toList]
  by_cases hfull : t.size < t.capacity
  · have hnext : t.next = 0 := t.next_eq_zero hfull
    rw [hnext, if_pos (by omega), List.drop_zero, Nat.zero_add, Nat.mod_eq_of_lt (by omega)]
  · by_cases hwrapped : t.next + j < t.capacity
    · rw [if_pos (by omega), List.getElem?_drop, Nat.mod_eq_of_lt hwrapped]
    · have hplace : (t.next + j) % t.capacity = j - (t.entries.toList.length - t.next) := by
        rw [Nat.mod_eq_sub_mod (by omega), Nat.mod_eq_of_lt (by omega)]
        omega
      rw [if_neg (by omega), List.getElem?_take_of_lt (by omega), hplace]

/-- Counting back from where the next entry goes is counting on from the oldest entry. -/
theorem slot_eq {count : Nat} (hcount : count ≤ t.size) (k : Nat) :
    t.slot count k = (t.next + (t.size - count + k)) % t.capacity := by
  have hle : t.size ≤ t.capacity := t.size_le
  have hshift : ((t.writeIndex : Int) - count + k) % t.capacity =
      ((t.next + (t.size - count + k) : Nat) : Int) % t.capacity := by
    unfold writeIndex
    by_cases hfull : t.size < t.capacity
    · have hnext : t.next = 0 := t.next_eq_zero hfull
      rw [if_pos hfull, hnext]
      congr 1
      omega
    · have hround : ((t.next + (t.size - count + k) : Nat) : Int) =
          (t.next : Int) - count + k + t.capacity := by omega
      rw [if_neg hfull, hround, Int.add_emod_right]
  rw [slot, hshift, ← Int.natCast_emod, Int.toNat_natCast]

/-- A limit takes away entries, and one below zero takes away all. -/
theorem length_latest (limit : Int) : (t.latest (some limit)).length = min t.size limit.toNat := by
  rw [latest, List.length_drop, length_toList]
  omega

/-- The latest entries are found at their places in the ring. -/
theorem getElem?_latest {limit : Int} {k : Nat} (hk : k < min t.size limit.toNat) :
    (t.latest (some limit))[k]? = t.entries[t.slot (min t.size limit.toNat) k]? := by
  have hstart : t.size - min t.size limit.toNat = t.size - limit.toNat := by omega
  rw [slot_eq (Nat.min_le_left _ _), hstart, ← getElem?_toList (by omega), latest,
    List.getElem?_drop]

/-! ## Everything together -/

/-- What a trace shows is a list of entries, cut to its capacity. -/
structure Refines (t : Trace) (entries : List Entry) : Prop where
  size : t.size = min entries.length t.capacity
  all : t.latest none = entries.rtake (min entries.length t.capacity)
  latest : ∀ limit : Int,
    t.latest (some limit) =
      entries.rtake (min (min entries.length t.capacity) (max limit 0).toNat)
  last : t.last? = entries.getLast?
  lines : ∀ limit, t.render limit = (t.latest limit).map Entry.render
  /-- The entries are read from the ring, where they stand one behind the other before the place of
  the next one. -/
  places : ∀ (limit : Int) (k : Nat), k < (t.latest (some limit)).length →
    (t.latest (some limit))[k]? = t.entries[t.slot (t.latest (some limit)).length k]?

/-- A trace that holds the latest entries is the list of them. -/
theorem HoldsLatest.refines (h : t.HoldsLatest entries) : t.Refines entries where
  size := h.size_eq
  all := by
    rw [Trace.latest, h, List.rtake]
    congr 1
    omega
  latest limit := by
    rw [Trace.latest, h, List.drop_drop, List.rtake, h.size_eq]
    congr 1
    omega
  last := by
    have hroom := Nat.zero_lt_of_lt t.next_lt
    rw [last?, h, List.getLast?_drop]
    by_cases hnil : entries = []
    · rw [hnil]
      rfl
    · have hpos := List.length_pos_iff.2 hnil
      rw [if_neg (by omega)]
  lines _ := rfl
  places limit k hk := by
    rw [length_latest] at hk ⊢
    exact getElem?_latest hk

/-- Any capacity above zero is accepted as long as there is room for it. -/
theorem ofCapacity?_eq (room : Room) {capacity : Nat} (positive : 0 < capacity) :
    ofCapacity? room capacity =
      if capacity * Extent.reference ≤ room.bytes then .ok (empty capacity positive)
      else .error (.oversize (if Extent.maxIndex < capacity then .uncountable else .noRoom)) := by
  rw [ofCapacity?, dif_pos (Int.natCast_pos.2 positive), Invalid.checkRoom]
  split
  next hroom =>
    rw [(Extent.check_eq_ok_iff (by decide)).2 hroom]
    rfl
  next hroom =>
    rw [Extent.check_of_lt (Int.not_le.1 hroom)]
    rfl

/-- **A trace is the list of what was recorded since everything was forgotten, cut to its
capacity.** Which entries are shown does not depend on how often the ring went round. -/
theorem ring_refines_list (room : Room) (capacity : Nat) (positive : 0 < capacity) :
    ofCapacity? room capacity =
      (if capacity * Extent.reference ≤ room.bytes then .ok (empty capacity positive)
      else .error (.oversize (if Extent.maxIndex < capacity then .uncountable else .noRoom))) ∧
      ∀ calls, ((empty capacity positive).after calls).capacity = capacity ∧
        ((empty capacity positive).after calls).Refines (recorded calls) := by
  constructor
  · exact ofCapacity?_eq room positive
  · intro calls
    have hcapacity : ((empty capacity positive).after calls).capacity = capacity :=
      capacity_after calls
    exact ⟨hcapacity, (holdsLatest_after positive calls).refines⟩

/-- A ring of two places that went round after it was emptied. The oldest entry is gone, and the
last place comes before the first one. -/
theorem ring_refines_list_of_two :
    let entry (n : UInt16) : Entry := ⟨n, none, "", 0, 0, [], 0, 0, false, false, ""⟩
    let t := (empty 2 (by decide)).after
      [.record (entry 1), .record (entry 2), .clear, .record (entry 3), .record (entry 4),
        .record (entry 5)]
    ofCapacity? .all 2 = .ok (empty 2 (by decide)) ∧ t.size = 2 ∧
      t.latest none = [entry 4, entry 5] ∧ t.latest (some 1) = [entry 5] ∧
      t.latest (some (-1)) = [] ∧ t.last? = some (entry 5) ∧
      t.slot 2 0 = 1 ∧ t.slot 2 1 = 0 := by
  intro entry t
  obtain ⟨hempty, hcalls⟩ := ring_refines_list .all 2 (by decide)
  have h : t.Refines [entry 3, entry 4, entry 5] := (hcalls _).2
  have hcapacity : t.capacity = 2 := (hcalls _).1
  refine ⟨hempty.trans (if_pos (by decide)), ?_, ?_, ?_, ?_, ?_, rfl, rfl⟩
  · rw [h.size, hcapacity]
    rfl
  · rw [h.all, hcapacity]
    rfl
  · rw [h.latest, hcapacity]
    rfl
  · rw [h.latest, hcapacity]
    rfl
  · rw [h.last]
    rfl

end Trace

end SuperChip
