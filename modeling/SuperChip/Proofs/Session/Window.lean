import SuperChip.Proofs.List.Pieces
import SuperChip.Proofs.Listing.Reading
import SuperChip.Proofs.Machine.Disassembly
import SuperChip.Proofs.Session.Address
import SuperChip.Proofs.Session.Loading

/-!
# Windows into memory

The debug shell shows a piece of memory from an address on, in rows of bytes or as assembly text.
The piece ends early where the memory ends. What is printed is read back, so that it can be said
which bytes are shown at which address.

- `Shell.Row`: a row of memory; `Row.read?` reads a printed one back.
- `Shell.RowsOf`, `Shell.LinesOf`: rows and lines that show all of some bytes from an address on;
  `rowsOf_cut` and `linesOf_ofBytes` are that the printed ones do.
- `Machine.holds_of_no_step`: a program stands in memory until a step is taken;
  `Core.Holds.getElem?_ofBytes` is that a window into it shows the lines of its listing.
- `windows_show_memory`: **a window shows the memory from its address on, up to its end**.

About `Chip8App._dump_memory` and `_dump_disassembly`.
-/

namespace SuperChip

namespace Shell

open Text

/-! ## Rows -/

/-- A row of memory. -/
structure Row where
  /-- The address of the first byte. -/
  address : Nat
  bytes : List UInt8

namespace Row

/-- A row as it is printed: the address and the bytes. -/
def render (r : Row) : String :=
  hexUpper 3 r.address ++ ": " ++ " ".intercalate (r.bytes.map hexByte)

/-- The row that was printed: the address ends at the colon, and the bytes have blanks between
them. -/
def read? (printed : String) : Option Row := do
  let address ← readHex? (String.ofList (printed.toList.takeWhile (· ≠ ':')))
  let columns := (printed.toList.dropWhile (· ≠ ':')).drop 2
  let numbers ← (columns.splitOn ' ').mapM fun number => readHex? (String.ofList number)
  some ⟨address.toNat, numbers.map fun n => UInt8.ofNat n.toNat⟩

theorem mapM_readHex? (bytes : List UInt8) :
    ((bytes.map hexByte).map String.toList).mapM (fun number => readHex? (String.ofList number)) =
      some (bytes.map fun b => (b.toNat : Int)) := by
  induction bytes with
  | nil => rfl
  | cons b rest ih =>
    rw [List.map_cons, List.map_cons, List.mapM_cons, ih, String.ofList_toList, hexByte,
      readHex?_hexUpper]
    rfl

/-- A printed row is read back. -/
theorem read?_render (r : Row) (h : r.bytes ≠ []) : read? r.render = some r := by
  have hprinted : r.render.toList = (hexUpper 3 r.address).toList ++
      ':' :: ' ' :: [' '].intercalate ((r.bytes.map hexByte).map String.toList) := by
    simp [render, String.toList_intercalate]
  obtain ⟨haddress, hrest⟩ := takeWhile_hexUpper (c := ':') (by decide) (by decide) 3 r.address
    (' ' :: [' '].intercalate ((r.bytes.map hexByte).map String.toList))
  rw [← hprinted] at haddress hrest
  have hcolumns : (r.render.toList.dropWhile (· ≠ ':')).drop 2 =
      [' '].intercalate ((r.bytes.map hexByte).map String.toList) := by
    rw [hrest]
    rfl
  have hblank : ∀ number ∈ (r.bytes.map hexByte).map String.toList, ' ' ∉ number := by
    intro number hnumber
    obtain ⟨text, htext, rfl⟩ := List.mem_map.1 hnumber
    obtain ⟨b, -, rfl⟩ := List.mem_map.1 htext
    exact not_mem_hexUpper (by decide) (by decide) 2 b.toNat
  have hne : (r.bytes.map hexByte).map String.toList ≠ [] := by simpa using h
  have hbytes : (r.bytes.map fun b => (b.toNat : Int)).map (fun n => UInt8.ofNat n.toNat) =
      r.bytes := by
    simp only [List.map_map, Function.comp_def, Int.toNat_natCast, UInt8.ofNat_toNat, List.map_id']
  simp only [read?, haddress, hcolumns, List.splitOn_intercalate ' ' hblank hne, mapM_readHex?,
    String.ofList_toList, readHex?_hexUpper, Option.bind_eq_bind, Option.bind_some,
    Int.toNat_natCast, hbytes]

end Row

/-- Bytes cut into rows. -/
def cut (start : Nat) (bytes : List UInt8) : List Row :=
  (List.range ((bytes.length + rowLength - 1) / rowLength)).map fun k =>
    ⟨start + k * rowLength, (bytes.drop (k * rowLength)).take rowLength⟩

theorem rows_eq (start : Nat) (bytes : List UInt8) :
    rows start bytes = (cut start bytes).map Row.render := by
  rw [cut, List.map_map]
  rfl

/-- Rows show all of some bytes from an address on. -/
structure RowsOf (start : Nat) (bytes : List UInt8) (rows : List Row) : Prop where
  address : rows.map Row.address = (List.range rows.length).map fun k => start + 16 * k
  /-- No row is empty or too long. -/
  length : ∀ r ∈ rows, r.bytes ≠ [] ∧ r.bytes.length ≤ 16
  bytes : rows.flatMap Row.bytes = bytes

theorem rowsOf_cut (start : Nat) (bytes : List UInt8) : RowsOf start bytes (cut start bytes) where
  address := by
    simp only [cut, List.map_map, List.length_map, List.length_range]
    refine List.map_congr_left fun k _ => ?_
    simp only [Function.comp_apply, rowLength]
    omega
  length := by
    intro r hr
    obtain ⟨k, hk, rfl⟩ := List.mem_map.1 hr
    rw [List.mem_range, rowLength] at hk
    refine ⟨List.ne_nil_of_length_pos ?_, List.length_take_le _ _⟩
    rw [List.length_take, List.length_drop, rowLength]
    omega
  bytes := by
    rw [cut, List.flatMap_map, flatMap_drop_take, List.take_of_length_le]
    rw [rowLength]
    omega

/-! ## Lines -/

/-- Lines of a listing show all of some bytes from an address on: words, and a single byte at the
end if there is one left. -/
structure LinesOf (start : Nat) (bytes : List UInt8) (lines : List Listing.Line) : Prop where
  address : lines.map Listing.Line.address =
    (List.range lines.length).map fun k : Nat => (start : Int) + 2 * (k : Int)
  words : ∃ words last, lines.map Listing.Line.word = words ++ last.map UInt8.toUInt16 ∧
    last.length = bytes.length % 2 ∧ words.flatMap Listing.wordBytes ++ last = bytes
  bytes : lines.flatMap Listing.Line.bytes = bytes

theorem linesOf_ofBytes (start : Nat) (bytes : List UInt8) :
    LinesOf start bytes (Listing.ofBytes start bytes) where
  address := by rw [Listing.map_address, Listing.length_ofBytes]
  words := Listing.exists_words start bytes
  bytes := Listing.flatMap_bytes start bytes

end Shell

/-! ## Windows into a program -/

/-- A program that was read from a file has room in memory. -/
theorem Rom.length_le_of_ofBytes? {file : List UInt8} {name : String} {rom : Rom}
    (h : ofBytes? file name = .ok rom) : rom.data.length ≤ programCapacity := by
  rw [ofBytes?, ofStream?_eq] at h
  split at h
  · cases h
  next hfit =>
    cases h
    exact Nat.not_lt.1 hfit

namespace Machine

/-- The actions that load no other program and leave the memory to the one that is there. -/
def KeepsProgram (a : Action) : Prop := a.loads = false ∧ a.pokes = false

/-- A program stands in memory as it was loaded until a step is taken, also after resets. -/
theorem holds_of_no_step {n m : Machine} {loading : Clock} {program : List UInt8}
    (hfit : program.length ≤ programCapacity)
    (h : (n.loadOn loading program).value.1.Leads KeepsProgram [] m) : m.core.Holds program := by
  obtain ⟨history, hkept, rfl, hnone⟩ := h
  let P (m : Machine) (past : List Moment) : Prop :=
    past = [] → m.program = program ∧ m.core.Holds program
  have hstart : P (n.loadOn loading program).value.1 [] := by
    intro _
    rw [loadOn_of_le loading hfit]
    exact ⟨rfl, Core.holds_start hfit _ _⟩
  suffices hP : P _ ([] ++ (n.loadOn loading program).value.1.moments history) from (hP hnone).2
  refine moments_preserve (P := P) (A := KeepsProgram) ?_ ?_ hstart hkept
  · intro past q _ _ hnil
    simp at hnil
  · intro m past clock a ha hsteps hP hnil
    obtain ⟨hprogram, hholds⟩ := hP hnil
    refine ⟨(program_respond clock ha.1).trans hprogram, ?_⟩
    cases hrestarts : a.restarts with
    | false =>
      rw [core_respond clock hsteps hrestarts ha.2]
      exact hholds
    | true =>
      cases a with
      | load => cases ha.1
      | reset =>
        show (m.resetOn clock).value.core.Holds program
        rw [core_resetOn, hprogram]
        exact Core.holds_start hfit _ _
      | _ => cases hrestarts

end Machine

/-- A window into a program that stands in memory shows the lines of its listing. -/
theorem Core.Holds.getElem?_ofBytes {c : Core} {program : List UInt8} (h : c.Holds program)
    {k j stop : Nat} (hj : 0x200 + 2 * k + 2 * j + 1 < min stop 0x1000)
    (hlast : 2 * (k + j) + 1 < program.length) :
    (Listing.ofBytes (0x200 + 2 * k : Nat) (c.memory.slice (0x200 + 2 * k) stop))[j]? =
      (Listing.ofBytes 0x200 program)[k + j]? := by
  have hlength := c.memory.length_slice (0x200 + 2 * k) stop
  have hbyte (i : Nat) (hi : i < (c.memory.slice (0x200 + 2 * k) stop).length)
      (hp : 2 * k + i < program.length) :
      (c.memory.slice (0x200 + 2 * k) stop)[i] = program[2 * k + i] := by
    rw [Ram.getElem_slice, ← h (2 * k + i) hp, Memory.programStart, Nat.add_assoc]
  rw [Listing.getElem?_ofBytes _ (by omega), Listing.getElem?_ofBytes _ hlast, hbyte _ _ (by omega),
    hbyte _ _ (by omega)]
  have haddress : ((0x200 + 2 * k : Nat) : Int) + 2 * (j : Int) =
      0x200 + 2 * ((k + j : Nat) : Int) := by omega
  simp only [haddress, Nat.mul_add, Nat.add_assoc]

namespace Session

open Shell Text

variable {s : Session} {m : Machine}

/-- **A window shows the memory from its address on, up to its end.** Every address can be typed in
base sixteen. Whichever way it is typed, the rows and the lines that are printed are read back and
show all bytes of the window. A window into a program that has not taken a step yet shows the lines
of its listing. -/
theorem windows_show_memory (hm : s.machine = some m) (clock : Clock) (a : Address) :
    (∀ width, Names (" " ++ hexLower width a.toNat) a) ∧
    ∀ argument, Names argument a →
      (∃ rows,
        s.commandOn clock ("m" ++ argument) = (.ok true, s.printAll (rows.map Row.render)) ∧
        (∀ r ∈ rows, Row.read? r.render = some r) ∧
        RowsOf a.toNat (m.core.memory.slice a.toNat (min (a.toNat + 64) 0x1000)) rows) ∧
      ∃ lines,
        s.commandOn clock ("d" ++ argument) =
          (.ok true, s.printAll (lines.map Listing.Line.render)) ∧
        (∀ l ∈ lines, Listing.Line.read? l.render = some l) ∧
        LinesOf a.toNat (m.core.memory.slice a.toNat (min (a.toNat + 32) 0x1000)) lines ∧
        ∀ {n : Machine} {loading : Clock} {file : List UInt8} {name : String} {rom : Rom},
          Rom.ofBytes? file name = .ok rom →
          (n.loadOn loading rom.data).value.1.Leads Machine.KeepsProgram [] m →
          ∀ k, a.toNat = 0x200 + 2 * k → ∀ j < lines.length, 2 * (k + j) + 1 < rom.size →
            ∃ line, (lines.map Listing.Line.render)[j]? = some line ∧
              (rom.listing 0x200)[k + j]? = some line := by
  refine ⟨fun width => names_hexLower width a, fun argument hnames => ⟨?rows, ?lines⟩⟩
  case rows =>
    have hcut := rowsOf_cut a.toNat (m.core.memory.slice a.toNat (min (a.toNat + 64) 0x1000))
    refine ⟨_, ?_, fun r hr => r.read?_render (hcut.length r hr).1, hcut⟩
    rw [commandOn_memory hm, memoryLines_of_names hnames, rows_eq, Memory.slice_min, memoryWindow]
  case lines =>
    refine ⟨_, ?_, fun l _ => l.read?_render,
      linesOf_ofBytes a.toNat (m.core.memory.slice a.toNat (min (a.toNat + 32) 0x1000)), ?_⟩
    · rw [commandOn_disassemble hm, listingLines_of_names hnames, Memory.slice_min, listingWindow]
    intro n loading file name rom hrom hleads k hk j hj hlast
    have hfit : rom.data.length ≤ programCapacity := Rom.length_le_of_ofBytes? hrom
    have hholds := Machine.holds_of_no_step hfit hleads
    rw [Memory.slice_min, hk] at hj ⊢
    rw [Listing.length_ofBytes, Memory.length_slice] at hj
    rw [Rom.size] at hlast
    have hinside : 0x200 + 2 * k + 2 * j + 1 < min (0x200 + 2 * k + 32) 0x1000 := by
      rw [programCapacity] at hfit
      omega
    have hsame := hholds.getElem?_ofBytes hinside hlast
    obtain ⟨line, hline⟩ : ∃ line, (Listing.ofBytes 0x200 rom.data)[k + j]? = some line :=
      ⟨_, Listing.getElem?_ofBytes 0x200 hlast⟩
    refine ⟨line.render, ?_, ?_⟩
    · rw [List.getElem?_map, hsame, hline]
      rfl
    · rw [Rom.listing, List.getElem?_map, hline]
      rfl

/-- A window from the start of a program of three bytes: its first line is that of the listing. -/
theorem windows_show_program_of_sample :
    let program : List UInt8 := [0x60, 0x2A, 0x12]
    let s := sample 4 (Machine.sample program)
    s.machine = some (Machine.sample program) ∧ Names "200" 0x200 ∧
      Rom.ofBytes? program "sample" = .ok ⟨program, "sample"⟩ ∧
      ∃ lines, s.commandOn (.still 0) "d200" = (.ok true, s.printAll lines) ∧
        ∃ line, lines[0]? = some line ∧
          (Rom.listing ⟨program, "sample"⟩ 0x200)[0]? = some line := by
  intro program s
  have hnames : Names "200" 0x200 := rfl
  have hrom : Rom.ofBytes? program "sample" = .ok ⟨program, "sample"⟩ := rfl
  obtain ⟨o, -, hsample⟩ := Machine.exists_switchOn_sample program
  have hleads : (o.value.loadOn (.still 0) program).value.1.Leads Machine.KeepsProgram []
      (Machine.sample program) := ⟨[], nofun, hsample, rfl⟩
  obtain ⟨-, hwindows⟩ := windows_show_memory (s := s) rfl (.still 0) 0x200
  obtain ⟨-, lines, hprinted, -, hlines, hlisting⟩ := hwindows "200" hnames
  have hcount : 0 < lines.length := by
    refine List.length_pos_iff.2 ?_
    rintro rfl
    have hbytes := congrArg List.length hlines.bytes
    rw [Memory.length_slice] at hbytes
    exact absurd hbytes (by decide)
  exact ⟨rfl, hnames, hrom, _, hprinted,
    hlisting hrom hleads 0 rfl 0 hcount (by decide)⟩

end Session

end SuperChip
