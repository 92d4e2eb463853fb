import SuperChip.Proofs.Session.Shell
import SuperChip.Proofs.Text.Hex

/-!
# Addresses in the debug shell

Two commands of the debug shell take an address. They are known by their first letter alone, and all
that is typed behind the letter is read as the address. So the rest of a word that starts with the
letter is taken for an address as well, which no such word is.

- `Command.parse_memory`, `Command.parse_disassemble`: **all that follows the letter is the
  address**.
- `Shell.Names`: what follows the letter names an address; `names_hexLower` is its plain number.
- `Shell.memoryLines_of_names`, `Shell.listingLines_of_names`: what is printed for it.
- `Shell.memoryLines_eq_cons`, `Shell.listingLines_eq_cons`: what is printed for a text that is no
  number.
- `Shell.Clear`: there is nothing to complain about; `complaint_not_mem_memoryLines` and
  `complaint_not_mem_listingLines` are that nothing looks like a complaint then.
- `long_spellings_complain`: **words that start with the letter are no spellings of the command**.

About `Chip8App.handle_debug_command` and `_parse_address`.
-/

namespace SuperChip

open Text

namespace Command

variable {line rest : String}

/-- A line is not one of several words if none of them starts with its first character. -/
theorem not_mem_of_head {c : Char} {cs : List Char} {words : List String}
    (hline : line.toList = c :: cs) (h : ∀ w ∈ words, w.toList.head? ≠ some c) : line ∉ words := by
  intro hmem
  refine h line hmem ?_
  rw [hline]
  rfl

/-- A line that starts with `m` asks for the memory; all behind the letter is its argument. -/
theorem parse_memory (rest : String) : parse ("m" ++ rest) = .memory (strip rest) := by
  have hline : ("m" ++ rest).toList = 'm' :: rest.toList := String.toList_append
  rw [parse, if_neg (not_mem_of_head hline (by decide)), if_neg (not_mem_of_head hline (by decide)),
    if_neg (not_mem_of_head hline (by decide)), if_neg (not_mem_of_head hline (by decide)),
    if_neg (not_mem_of_head hline (by decide)), hline]
  simp only [String.ofList_toList]

/-- A line that starts with `d` asks for a listing in the same way. -/
theorem parse_disassemble (rest : String) : parse ("d" ++ rest) = .disassemble (strip rest) := by
  have hline : ("d" ++ rest).toList = 'd' :: rest.toList := String.toList_append
  rw [parse, if_neg (not_mem_of_head hline (by decide)), if_neg (not_mem_of_head hline (by decide)),
    if_neg (not_mem_of_head hline (by decide)), if_neg (not_mem_of_head hline (by decide)),
    if_neg (not_mem_of_head hline (by decide)), hline]
  simp only [String.ofList_toList]

end Command

namespace Shell

variable {text argument : String} {a : Address} {m : Machine}

/-! ## The address that is meant -/

/-- What is typed behind the letter names an address. Only the low twelve bits of the number
count. -/
def Names (argument : String) (a : Address) : Prop :=
  (readHex? (strip argument)).map (BitVec.ofInt 12) = some a

/-- A printed number names its address. -/
theorem names_hexLower (width : Nat) (a : Address) : Names (" " ++ hexLower width a.toNat) a := by
  rw [Names, strip_hexLower, readHex?_hexLower]
  simp

/-- An argument that names an address is taken for it. -/
theorem address_of_names (h : Names argument a) (fallback : Int) :
    address (strip argument) fallback = (a, []) := by
  obtain ⟨n, hn, rfl⟩ := Option.map_eq_some_iff.1 h
  have hne : (strip argument).isEmpty = false := by
    rw [Bool.eq_false_iff]
    intro hempty
    rw [String.isEmpty_iff.1 hempty] at hn
    cases hn
  simp only [address, hne, hn, Bool.false_eq_true, if_false]

/-- One that is no number is complained about, and the address is another one. -/
theorem address_eq_complaint (h : readHex? text = none) (hne : text ≠ "") (fallback : Int) :
    address text fallback = ((address "" fallback).1, ["Invalid address: " ++ text]) := by
  have hempty : text.isEmpty = false := by
    rw [Bool.eq_false_iff]
    exact fun h => hne (String.isEmpty_iff.1 h)
  simp only [address, hempty, h, Bool.false_eq_true, if_false]
  rfl

/-- A text with a foreign character in it is no number, nor is what is left of it without the blanks
around it. -/
theorem readHex?_strip_eq_none {c : Char} (h : Foreign c) (hblank : isBlank c = false)
    (hc : c ∈ text.toList) : readHex? (strip text) = none ∧ strip text ≠ "" := by
  have hmem : c ∈ (strip text).toList := by
    rw [strip, String.toList_ofList]
    exact mem_trim hc hblank
  refine ⟨readHex?_eq_none h hmem, fun hempty => ?_⟩
  rw [hempty] at hmem
  cases hmem

/-! ## What is printed -/

theorem memoryLines_of_names (h : Names argument a) :
    memoryLines m (strip argument) =
      rows a.toNat (m.core.memory.slice a.toNat (a.toNat + memoryWindow)) := by
  simp only [memoryLines, address_of_names h, List.nil_append]

theorem listingLines_of_names (h : Names argument a) :
    listingLines m (strip argument) =
      (Listing.ofBytes a.toNat
        (m.core.memory.slice a.toNat (a.toNat + listingWindow))).map Listing.Line.render := by
  simp only [listingLines, address_of_names h, List.nil_append]

/-- A text that is no number is complained about, and then the same is printed as without it. -/
theorem memoryLines_eq_cons (h : readHex? text = none) (hne : text ≠ "") :
    memoryLines m text = ("Invalid address: " ++ text) :: memoryLines m "" := by
  simp only [memoryLines, address_eq_complaint h hne]
  rfl

/-- The listing follows the complaint. -/
theorem listingLines_eq_cons (h : readHex? text = none) (hne : text ≠ "") :
    listingLines m text = ("Invalid address: " ++ text) :: listingLines m "" := by
  simp only [listingLines, address_eq_complaint h hne]
  rfl

/-- What is typed behind the letter is an address or nothing, so that there is nothing to complain
about. -/
def Clear (argument : String) : Prop := strip argument = "" ∨ ∃ a, Names argument a

theorem Clear.address_eq (h : Clear argument) (fallback : Int) :
    (address (strip argument) fallback).2 = [] := by
  obtain h | ⟨a, ha⟩ := h
  · rw [h]
    rfl
  · rw [address_of_names ha]

/-- A row of memory starts with its address. -/
theorem head?_row_ne {c : Char} (hc : hexDigit? c = none) (hsign : c ≠ '-') {start : Nat}
    {bytes : List UInt8} {line : String} (h : line ∈ rows start bytes) :
    line.toList.head? ≠ some c := by
  obtain ⟨k, -, rfl⟩ := List.mem_map.1 h
  rw [String.append_assoc]
  exact head?_hexUpper_append_ne hc hsign _ _ _

/-- A line of a listing starts with its address. -/
theorem head?_render_ne {c : Char} (hc : hexDigit? c = none) (hsign : c ≠ '-') (l : Listing.Line) :
    l.render.toList.head? ≠ some c := by
  rw [Listing.Line.render, String.append_assoc, String.append_assoc, String.append_assoc]
  exact head?_hexUpper_append_ne hc hsign _ _ _

theorem head?_complaint (text : String) :
    ("Invalid address: " ++ text).toList.head? = some 'I' := by
  rw [String.toList_append]
  rfl

theorem complaint_not_mem_memoryLines (h : Clear argument) (text : String) :
    "Invalid address: " ++ text ∉ memoryLines m (strip argument) := by
  intro hmem
  simp only [memoryLines, h.address_eq, List.nil_append] at hmem
  exact head?_row_ne (by decide) (by decide) hmem (head?_complaint text)

theorem complaint_not_mem_listingLines (h : Clear argument) (text : String) :
    "Invalid address: " ++ text ∉ listingLines m (strip argument) := by
  intro hmem
  simp only [listingLines, h.address_eq, List.nil_append] at hmem
  obtain ⟨l, -, hl⟩ := List.mem_map.1 hmem
  exact head?_render_ne (by decide) (by decide) l (hl ▸ head?_complaint text)

end Shell

namespace Session

open Shell

variable {s : Session} {m : Machine} {argument : String}

/-- Lines are not printed alike if one of them is among the first and not among the others. -/
theorem printed_ne {line : String} {lines lines' : List String} (h : line ∈ lines)
    (h' : line ∉ lines') : (s.printAll lines).host.printed ≠ (s.printAll lines').host.printed := by
  intro heq
  have hsame : lines.reverse ++ s.host.printed = lines'.reverse ++ s.host.printed := by
    simpa only [printAll, Host.printAll_eq] using heq
  rw [List.append_cancel_right_eq, List.reverse_inj] at hsame
  exact h' (hsame ▸ h)

/-- The lines that `m` prints. -/
theorem commandOn_memory (hm : s.machine = some m) (clock : Clock) (argument : String) :
    s.commandOn clock ("m" ++ argument) =
      (.ok true, s.printAll (memoryLines m (strip argument))) := by
  rw [commandOn_eq hm, Command.parse_memory]
  rfl

/-- The lines that `d` prints. -/
theorem commandOn_disassemble (hm : s.machine = some m) (clock : Clock) (argument : String) :
    s.commandOn clock ("d" ++ argument) =
      (.ok true, s.printAll (listingLines m (strip argument))) := by
  rw [commandOn_eq hm, Command.parse_disassemble]
  rfl

/-- **Words that start with the letter are no spellings of the command.** What follows the letter in
such a word is complained about, and then the window is shown that is shown without an address,
whichever address follows the word. So no output is that of the short spelling. -/
theorem long_spellings_complain (hm : s.machine = some m) (clock : Clock) :
    ∃ shown listed,
      s.commandOn clock "m" = (.ok true, s.printAll shown) ∧
      s.commandOn clock "d" = (.ok true, s.printAll listed) ∧
      ∀ argument,
        s.commandOn clock ("mem" ++ argument) =
          (.ok true, s.printAll (("Invalid address: " ++ strip ("em" ++ argument)) :: shown)) ∧
        s.commandOn clock ("disasm" ++ argument) =
          (.ok true, s.printAll (("Invalid address: " ++ strip ("isasm" ++ argument)) :: listed)) ∧
        (Clear argument →
          (s.commandOn clock ("mem" ++ argument)).2.host.printed ≠
              (s.commandOn clock ("m" ++ argument)).2.host.printed ∧
            (s.commandOn clock ("disasm" ++ argument)).2.host.printed ≠
              (s.commandOn clock ("d" ++ argument)).2.host.printed) := by
  refine ⟨memoryLines m "", listingLines m "", commandOn_memory hm clock "",
    commandOn_disassemble hm clock "", fun argument => ?_⟩
  have hm' : 'm' ∈ ("em" ++ argument).toList := by simp
  have hs' : 's' ∈ ("isasm" ++ argument).toList := by simp
  obtain ⟨hmem, hmemne⟩ := readHex?_strip_eq_none (by decide) (by decide) hm'
  obtain ⟨hdis, hdisne⟩ := readHex?_strip_eq_none (by decide) (by decide) hs'
  have hmemory : s.commandOn clock ("mem" ++ argument) = (.ok true, s.printAll _) :=
    String.append_assoc ▸ commandOn_memory hm clock ("em" ++ argument)
  have hlisting : s.commandOn clock ("disasm" ++ argument) = (.ok true, s.printAll _) :=
    String.append_assoc ▸ commandOn_disassemble hm clock ("isasm" ++ argument)
  rw [memoryLines_eq_cons hmem hmemne] at hmemory
  rw [listingLines_eq_cons hdis hdisne] at hlisting
  refine ⟨hmemory, hlisting, fun hclear => ⟨?memory, ?listing⟩⟩
  case memory =>
    rw [hmemory, commandOn_memory hm]
    exact printed_ne (.head _) (complaint_not_mem_memoryLines hclear _)
  case listing =>
    rw [hlisting, commandOn_disassemble hm]
    exact printed_ne (.head _) (complaint_not_mem_listingLines hclear _)

/-- The address of the program, behind the letter and behind the word. -/
theorem long_spellings_complain_of_sample :
    let s := sample 4 (Machine.sample [0x60, 0x2A, 0x00, 0xE0])
    s.machine = some (Machine.sample [0x60, 0x2A, 0x00, 0xE0]) ∧ Clear " 200" ∧
      (s.commandOn (.still 0) "mem 200").2.host.printed ≠
        (s.commandOn (.still 0) "m 200").2.host.printed ∧
      (s.commandOn (.still 0) "disasm 200").2.host.printed ≠
        (s.commandOn (.still 0) "d 200").2.host.printed := by
  intro s
  have hclear : Clear " 200" := .inr ⟨0x200, rfl⟩
  obtain ⟨shown, listed, -, -, hlong⟩ := long_spellings_complain (s := s) rfl (.still 0)
  exact ⟨rfl, hclear, (hlong " 200").2.2 hclear⟩

/-- The word complains about its own end, where the letter shows the program. -/
theorem word_complains_of_sample :
    let s := sample 4 (Machine.sample [0x60, 0x2A, 0x00, 0xE0])
    "Invalid address: em 200" ∈ (s.commandOn (.still 0) "mem 200").2.host.printed ∧
      "Invalid address: em 200" ∉ (s.commandOn (.still 0) "m 200").2.host.printed := by
  intro s
  have hclear : Clear " 200" := .inr ⟨0x200, rfl⟩
  have hword : s.commandOn (.still 0) "mem 200" =
      (.ok true, s.printAll (memoryLines _ "em 200")) :=
    commandOn_memory rfl (.still 0) "em 200"
  have hletter : s.commandOn (.still 0) "m 200" = (.ok true, s.printAll (memoryLines _ "200")) :=
    commandOn_memory rfl (.still 0) " 200"
  rw [hword, hletter]
  constructor
  · show _ ∈ (s.host.printAll _).printed
    rw [Host.printAll_eq, memoryLines_eq_cons rfl (by decide)]
    simp
  · show _ ∉ (s.host.printAll _).printed
    rw [Host.printAll_eq]
    have hnot := complaint_not_mem_memoryLines
      (m := Machine.sample [0x60, 0x2A, 0x00, 0xE0]) hclear "em 200"
    intro hmem
    obtain hmem | hmem := List.mem_append.1 hmem
    · exact hnot (List.mem_reverse.1 hmem)
    · cases hmem

end Session

end SuperChip
