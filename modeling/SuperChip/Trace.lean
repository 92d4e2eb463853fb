import SuperChip.Invalid
import SuperChip.Registers

/-!
# Traces

A trace keeps the records of the latest steps of a machine and forgets older ones.

- `Trace.Entry`: the record of a step.
- `Trace`: a ring of entries; `Trace.toList` is its contents, the oldest first.
- `Trace.record`, `Trace.clear`: adding an entry, and forgetting all of them. `toList_record`
  says what is forgotten.
- `Trace.latest`: the last few entries.
- `Trace.Entry.render`: an entry as it is printed.

Models `TraceEntry` and `TraceRecorder`: `record_step`, `entries`, `last_entry`, `clear` and
`format_entries`.
-/

namespace SuperChip

open Text

/-- The record of a step: the registers before it, the word if it was executed, and the
timers and flags after it. -/
structure Trace.Entry where
  pc : UInt16
  word : Option UInt16
  /-- How the instruction is written, or nothing. -/
  text : String
  i : Address
  sp : UInt8
  v : List UInt8
  delay : UInt8
  sound : UInt8
  /-- Whether the machine waits for a key. -/
  waiting : Bool
  halted : Bool
  /-- The kind of the fault that the step met, or nothing. -/
  note : String
deriving DecidableEq, Repr

/-- A ring of at most `capacity` entries. Until it is full it grows; then the entry at `next`
is the oldest one and is replaced by the newest. -/
structure Trace where
  capacity : Nat
  entries : Array Trace.Entry
  /-- Where the oldest entry of a full ring is. -/
  next : Nat
  size_le : entries.size ≤ capacity
  next_lt : next < capacity
  next_eq_zero : entries.size < capacity → next = 0

namespace Trace

/-- A trace without entries. -/
def empty (capacity : Nat) (positive : 0 < capacity) : Trace :=
  ⟨capacity, #[], 0, Nat.zero_le _, positive, fun _ => rfl⟩

/-- A trace of a requested capacity, which has to be positive and to have room. -/
def ofCapacity? (room : Room) (capacity : Int) : Except Invalid Trace :=
  if h : 0 < capacity then
    (Invalid.checkRoom room capacity Extent.reference).map fun _ => empty capacity.toNat (by omega)
  else .error .traceCapacity

/-- The capacity when none is asked for. -/
def defaultCapacity : Int := 256

/-- The number of entries. -/
def size (t : Trace) : Nat := t.entries.size

/-- The entries, the oldest first. -/
def toList (t : Trace) : List Entry := t.entries.toList.drop t.next ++ t.entries.toList.take t.next

/-- Adds an entry, in place of the oldest one if the ring is full. -/
def record (t : Trace) (e : Entry) : Trace :=
  if h : t.entries.size < t.capacity then
    { t with
      entries := t.entries.push e
      size_le := by rw [Array.size_push]; exact h
      next_eq_zero := fun _ => t.next_eq_zero h }
  else
    { t with
      entries := t.entries.setIfInBounds t.next e
      next := (t.next + 1) % t.capacity
      size_le := by simpa using t.size_le
      next_lt := Nat.mod_lt _ (Nat.lt_of_le_of_lt (Nat.zero_le _) t.next_lt)
      next_eq_zero := fun h' => absurd (by simpa using h') h }

/-- Forgets all entries. -/
def clear (t : Trace) : Trace := empty t.capacity (Nat.lt_of_le_of_lt (Nat.zero_le _) t.next_lt)

/-- The latest entries, the oldest first: all of them, or as many as a limit admits. -/
def latest (t : Trace) (limit : Option Int) : List Entry :=
  match limit with
  | none => t.toList
  | some n => t.toList.drop (t.size - n.toNat)

/-- The newest entry. -/
def last? (t : Trace) : Option Entry := t.toList.getLast?

/-! ## Records and their text -/

/-- The record of a step. Numbers outside their columns lose their high bits. -/
def Entry.ofStep (r : Registers) (word : Option UInt16) (text : String) (delay sound : UInt8)
    (waiting halted : Bool) (note : String) : Entry where
  pc := UInt16.ofInt r.pc
  word := word
  text := text
  i := r.i
  sp := UInt8.ofInt r.sp
  v := r.v.toList
  delay := delay
  sound := sound
  waiting := waiting
  halted := halted
  note := note

/-- The flags of an entry: a wait for a key, a halt and the note. -/
def Entry.flags (e : Entry) : List String :=
  (if e.waiting then ["KEY"] else []) ++ (if e.halted then ["HALT"] else []) ++
    (if e.note.isEmpty then [] else [e.note])

/-- A text with blanks behind it up to a width. -/
def padded (width : Nat) (s : String) : String :=
  s ++ String.ofList (List.replicate (width - s.length) ' ')

/-- An entry as it is printed. -/
def Entry.render (e : Entry) : String :=
  let word := match e.word with
    | some w => hexUpper 4 w.toNat
    | none => "----"
  let flags := if e.flags.isEmpty then "-" else ",".intercalate e.flags
  "pc=" ++ hexUpper 3 e.pc.toNat ++ " opcode=" ++ word ++ " " ++
    padded 16 (if e.text.isEmpty then "?" else e.text) ++
    " I=" ++ hexUpper 3 e.i.toNat ++ " SP=" ++ hexUpper 1 e.sp.toNat ++
    " DT=" ++ hexByte e.delay ++ " ST=" ++ hexByte e.sound ++
    " V=[" ++ " ".intercalate (e.v.map hexByte) ++ "] flags=" ++ flags

/-- The latest entries as they are printed. -/
def render (t : Trace) (limit : Option Int) : List String := (t.latest limit).map Entry.render

/-! ## What recording does to the contents -/

theorem length_toList (t : Trace) : t.toList.length = t.size := by
  simp only [toList, List.length_append, List.length_drop, List.length_take, size,
    Array.length_toList]
  omega

/-- There are no entries at first. -/
@[simp] theorem toList_empty (capacity : Nat) (positive : 0 < capacity) :
    (empty capacity positive).toList = [] := by
  simp [empty, toList]

/-- Nor are there after clearing. -/
@[simp] theorem toList_clear (t : Trace) : t.clear.toList = [] := toList_empty _ _

/-- A new entry comes last, and the oldest one goes if there is no room for both. -/
theorem toList_record (t : Trace) (e : Entry) :
    (t.record e).toList = (t.toList ++ [e]).drop (t.size + 1 - t.capacity) := by
  have hle := t.size_le
  have hlt := t.next_lt
  unfold record
  split
  · next h =>
    have h₀ : t.size + 1 - t.capacity = 0 := by simp only [size]; omega
    simp [toList, t.next_eq_zero h, h₀]
  · next h =>
    have hfull : t.entries.toList.length = t.capacity := by
      rw [Array.length_toList]; omega
    have h₁ : t.size + 1 - t.capacity = 1 := by simp only [size]; omega
    have hset : (t.entries.toList.set t.next e).take (t.next + 1) =
        t.entries.toList.take t.next ++ [e] := by
      rw [List.take_succ_eq_append_getElem (by simp; omega)]
      simp [List.take_set_of_le]
    have hdrop : (t.entries.toList.set t.next e).drop (t.next + 1) =
        t.entries.toList.drop (t.next + 1) := List.drop_set_of_lt (Nat.lt_succ_self _)
    rw [h₁]
    simp only [toList, Array.toList_setIfInBounds]
    rw [List.drop_append_of_le_length (by simp; omega),
      List.drop_append_of_le_length (by simp; omega),
      List.drop_drop, List.append_assoc, ← hset]
    rcases Nat.lt_or_eq_of_le (Nat.succ_le_of_lt hlt) with hn | hn
    · rw [Nat.mod_eq_of_lt hn, hdrop]
    · rw [show (t.next + 1) % t.capacity = 0 by rw [← hn]; exact Nat.mod_self _]
      have hlast : t.entries.toList.length ≤ t.next + 1 := by omega
      rw [List.drop_zero, List.take_zero, List.append_nil, List.drop_eq_nil_of_le hlast,
        List.nil_append, List.take_of_length_le (by rw [List.length_set]; exact hlast)]

/-- The newest record is the one that was added last. -/
theorem render_record (t : Trace) (e : Trace.Entry) :
    (t.record e).render (some 1) = [e.render] := by
  have hsize : (t.record e).size = t.size + 1 - (t.size + 1 - t.capacity) := by
    rw [← length_toList, toList_record, List.length_drop, List.length_append, length_toList]
    rfl
  have hcapacity : 0 < t.capacity := Nat.lt_of_le_of_lt (Nat.zero_le _) t.next_lt
  have hle : t.size ≤ t.capacity := t.size_le
  have hskipped : t.size + 1 - t.capacity + ((t.record e).size - 1) = t.toList.length := by
    rw [length_toList]
    omega
  rw [render, latest, toList_record, List.drop_drop, show (1 : Int).toNat = 1 from rfl, hskipped,
    List.drop_left]
  rfl

end Trace

end SuperChip
