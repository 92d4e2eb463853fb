import SuperChip.Proofs.Machine.Moment
import SuperChip.Proofs.Instruction.Text
import SuperChip.Rom

/-!
# Listings and execution

A listing reads a program two bytes at a time from its beginning; a machine reads it wherever its
program counter points, out of a memory that the program itself can change. As long as the program
was left in place the two agree wherever they read the same two bytes.

- `Listing.Line.IsData`: a line that shows no instruction; `isData_iff` is when.
- `Listing.getElem?_ofBytes`: the lines of a listing.
- `Machine.Misread`: what a step tells if it could make nothing of the word that it came to;
  `Moment.Ends.misread_iff` is when it does.
- `Machine.RemembersWord`: a machine that was halted by its program still tells that.
- `listing_tells_step`: **a line of the listing tells what a step does that starts there**.

About `disassemble` and `Machine.step`.
-/

namespace SuperChip

namespace Listing

/-! ## The lines of a listing -/

/-- A line that shows its word as data. -/
def Line.IsData (l : Line) : Prop := ∃ digits, l.text = "DW " ++ digits

/-- The line of a word. -/
def wordLine (origin : Int) (w : Word) : Line := ⟨origin, w, wordText w⟩

/-- A word is shown as data if no instruction is written with it. -/
theorem isData_iff {origin : Int} {w : Word} :
    (wordLine origin w).IsData ↔ ∃ f, Instruction.ofWord w = .error f := by
  have htext : (wordLine origin w).text = wordText w := rfl
  rw [Line.IsData, htext, wordText]
  cases hw : Instruction.ofWord w with
  | ok i =>
    refine ⟨fun ⟨digits, h⟩ => absurd h (i.text_ne_data digits), ?_⟩
    rintro ⟨f, hf⟩
    cases hf
  | error f => exact ⟨fun _ => ⟨f, rfl⟩, fun _ => ⟨_, rfl⟩⟩

/-- A word that an instruction is written with is shown as that instruction. -/
theorem text_wordLine {origin : Int} {w : Word} {d : Decoded} (h : Decoded.ofWord w = .ok d) :
    (wordLine origin w).text = d.text := by
  unfold Decoded.ofWord at h
  cases hw : Instruction.ofWord w with
  | ok i =>
    rw [hw] at h
    cases h
    show wordText w = i.text
    rw [wordText, hw]
  | error f =>
    rw [hw] at h
    cases h

/-- A line shows the two bytes that it stands for. -/
theorem getElem?_ofBytes (origin : Int) {bytes : List UInt8} {k : Nat}
    (hk : 2 * k + 1 < bytes.length) :
    (ofBytes origin bytes)[k]? =
      some (wordLine (origin + 2 * k) (Memory.wordOf bytes[2 * k] bytes[2 * k + 1])) := by
  induction k generalizing origin bytes with
  | zero =>
    obtain _ | ⟨high, _ | ⟨low, rest⟩⟩ := bytes
    · simp at hk
    · simp at hk
    · simp [ofBytes, wordLine]
  | succ k ih =>
    obtain _ | ⟨high, _ | ⟨low, rest⟩⟩ := bytes
    · simp at hk
    · simp at hk
    · have hrest : 2 * k + 1 < rest.length := by
        simp only [List.length_cons] at hk
        omega
      have hindex : 2 * (k + 1) = 2 * k + 2 := by omega
      have horigin : origin + 2 + 2 * (k : Int) = origin + 2 * ((k + 1 : Nat) : Int) := by omega
      rw [ofBytes, List.getElem?_cons_succ, ih (origin + 2) hrest]
      simp only [hindex, horigin, List.getElem_cons_succ]

end Listing

/-! ## What the decoder refuses -/

/-- A step of the processor is refused by the decoder if no instruction is written with the word at
the program counter. -/
theorem Core.name_eq_decodeError_iff {c : Core} (hpc : c.registers.pc ≤ 0xFFE) {f : Fault}
    (ho : c.obstacle? = some f) :
    f.name = "DecodeError" ↔ ∃ g, Instruction.ofWord c.word = .error g := by
  rw [obstacle?, if_neg (Int.not_lt.2 hpc)] at ho
  split at ho
  next hno =>
    cases ho
    refine ⟨fun _ => ⟨_, Instruction.ofWord_eq_error_iff.2 ⟨hno, rfl⟩⟩, fun _ => ?_⟩
    unfold Word.misfit
    split <;> rfl
  next hrow =>
    refine ⟨fun hname => absurd hname (name_of_hindrance? ho), ?_⟩
    rintro ⟨g, hg⟩
    exact absurd (Instruction.ofWord_eq_error_iff.1 hg).1 hrow

namespace Machine

/-- What is told of a step that came to a word which no instruction is written with. -/
def Misread (error : Option Fault) : Prop := ∃ f, error = some f ∧ f.name = "DecodeError"

namespace Moment

variable {q : Moment}

/-- A step stores into the cells of a program of so many bytes. -/
def Overwrites (q : Moment) (length : Nat) : Prop :=
  ∃ d, q.completed? = some d ∧ q.before.core.Overwrites length d.instruction

/-- What a step tells is what the machine remembers. -/
theorem Ends.fault?_status (h : q.Ends) : q.after.status.fault? = q.fault? := by
  cases h with
  | failed f h =>
    rw [h.fault?_eq_some, h.after_eq]
    rfl
  | completed d c h => rw [h.fault?_eq, h.status_after]

/-- **A step is refused by the decoder exactly if no instruction is written with the word that it
comes to.** -/
theorem Ends.misread_iff (h : q.Ends) (hrange : q.before.core.InRange)
    (hpc : q.before.core.registers.pc ≤ 0xFFE) :
    Misread q.fault? ↔ ∃ g, Instruction.ofWord q.before.core.word = .error g := by
  cases h with
  | failed f h =>
    have hname := Core.name_eq_decodeError_iff (c := q.ticked) hpc h.obstacle
    rw [h.fault?_eq_some, Misread]
    refine ⟨fun ⟨g, hg, hmisread⟩ => ?_, fun hw => ⟨f, rfl, hname.2 hw⟩⟩
    cases hg
    exact hname.1 hmisread
  | completed d c h =>
    -- neither the end of the program nor the end of the memory is a fault of the decoder
    have hverdict : ¬ Misread c.verdict.fault? := by
      rintro ⟨f, hf, hname⟩
      unfold Core.verdict at hf
      split at hf
      · cases hf
      · split at hf <;> cases hf
        exact absurd hname (by simp [Fault.name])
    rw [h.fault?_eq]
    refine ⟨fun hmisread => absurd hmisread hverdict, ?_⟩
    rintro ⟨g, hg⟩
    have hw := Core.ofWord_of_peek hrange h.peek
    rw [Decoded.ofWord, hg] at hw
    cases hw

/-- A step that halts the machine inside the memory leaves it at the word that it came to. -/
theorem Ends.word_after (h : q.Ends) (hexit : q.before.core.exited = false)
    (hhalted : q.after.status ≠ .running) (hpc : q.after.core.registers.pc ≤ 0xFFE) :
    q.after.core.registers.pc = q.before.core.registers.pc ∧
      q.after.core.word = q.before.core.word := by
  cases h with
  | failed f h =>
    rw [h.core_after]
    exact ⟨rfl, rfl⟩
  | completed d c h =>
    rw [h.core_after] at hpc ⊢
    -- inside the memory only the end of the program halts a machine
    have hd : d.instruction = .exit := by
      refine Decidable.byContradiction fun hd => hhalted ?_
      exact h.running_after hexit hd (by omega)
    have hstays : c.registers.pc = q.before.core.registers.pc := by
      rw [h.touches.pc, hd]
      rfl
    have hcells (a : Nat) : c.memory.byteAt a = q.before.core.memory.byteAt a := by
      refine h.touches.memory a ?_
      rw [hd]
      exact Nat.lt_or_ge a _
    exact ⟨hstays, by rw [Core.word, Core.word, hstays, hcells, hcells]⟩

/-- A step that does not store into a program leaves it in place. -/
theorem Ends.holds_after (h : q.Ends) {program : List UInt8} (hholds : q.before.core.Holds program)
    (hkept : ¬ q.Overwrites program.length) : q.after.core.Holds program := by
  cases h with
  | failed f h =>
    rw [h.core_after]
    exact hholds
  | completed d c h =>
    rw [h.core_after]
    exact h.touches.holds hholds fun hover => hkept ⟨d, h.completed?_eq_some, hover⟩

end Moment

/-- A machine that its program halted inside the memory tells a fault of the decoder exactly if no
instruction is written with the word at which it stands. -/
def RemembersWord (m : Machine) : Prop :=
  m.status ≠ .running → (∀ reason, m.status ≠ .halted (.host reason)) →
    m.core.registers.pc ≤ 0xFFE →
      (Misread m.status.fault? ↔ ∃ g, Instruction.ofWord m.core.word = .error g)

theorem Moment.Ends.remembersWord {q : Moment} (h : q.Ends) (hrange : q.before.core.InRange)
    (hexit : q.before.core.exited = false) : q.after.RemembersWord := by
  intro hhalted _ hpc
  obtain ⟨hstays, hword⟩ := h.word_after hexit hhalted hpc
  rw [h.fault?_status, hword]
  exact h.misread_iff hrange (hstays ▸ hpc)

/-! ## Whole scripts -/

/-- The actions that leave the program in memory to the program itself. -/
def LeavesMemory (a : Action) : Prop := a.restarts = false ∧ a.pokes = false

variable {m n : Machine} {past : List Moment}

theorem RemembersWord.respond (h : m.RemembersWord) (clock : Clock) {a : Action}
    (hsteps : a.takesSteps = false) (ha : LeavesMemory a) :
    (m.respond clock a).machine.RemembersWord := by
  intro hhalted hhost hpc
  rw [core_respond clock hsteps ha.1 ha.2] at hpc ⊢
  obtain hsame | ⟨reason, -, -, hreason⟩ := status_respond (m := m) clock hsteps ha.1
  · rw [hsame] at hhalted hhost ⊢
    exact h hhalted hhost hpc
  · exact absurd hreason (hhost reason)

/-- A program stays in memory as long as no step stores into it, and a machine that it halts tells
of the word at which that happened. -/
theorem holds_of_leads {setup : Setup} (hm : MadeFrom setup m) (hrun : m.status = .running)
    {program : List UInt8} (hholds : m.core.Holds program) (hleads : m.Leads LeavesMemory past n) :
    n.RemembersWord ∧ ((∀ p ∈ past, ¬ p.Overwrites program.length) → n.core.Holds program) := by
  obtain ⟨history, hkept, rfl, rfl⟩ := hleads
  let P (n : Machine) (past : List Moment) : Prop :=
    MadeFrom setup n ∧ n.RemembersWord ∧
      ((∀ p ∈ past, ¬ p.Overwrites program.length) → n.core.Holds program)
  have hstart : P m [] := ⟨hm, fun hhalted => absurd hrun hhalted, fun _ => hholds⟩
  suffices hP : P (m.after history) ([] ++ m.moments history) from hP.2
  refine moments_preserve (P := P) (A := LeavesMemory) ?_ ?_ hstart hkept
  · rintro past q hrun ⟨hq, -, hholds⟩
    have hrange := hq.keeps.core.toInRange
    have hends := q.ends hrange hrun
    refine ⟨hq.performed q.clock .step, hends.remembersWord hrange (hq.keeps.not_exited hrun),
      fun hpast => ?_⟩
    exact hends.holds_after (hholds fun p hp => hpast p (List.mem_append_left _ hp))
      (hpast q (List.mem_append_right _ (.head _)))
  · rintro n past clock a ha hother ⟨hn, hremembers, hholds⟩
    refine ⟨hn.performed clock a, hremembers.respond clock hother ha, fun hpast => ?_⟩
    rw [core_respond clock hother ha.1 ha.2]
    exact hholds hpast

/-- What a step tells of the word that it comes to: whether there is an instruction, and which. A
machine that was halted there tells the first once more. -/
theorem exists_result {setup : Setup} (hm : MadeFrom setup m) (hremembers : m.RemembersWord)
    (hhost : ∀ reason, m.status ≠ .halted (.host reason)) (hpc : m.core.registers.pc ≤ 0xFFE)
    (clock : Clock) :
    ∃ r, (m.stepOn clock).result = .ok r ∧
      (Misread r.error ↔ ∃ g, Instruction.ofWord m.core.word = .error g) ∧
      ∀ d, r.instruction = some d → Decoded.ofWord m.core.word = .ok d := by
  have hrange := hm.keeps.core.toInRange
  cases hstatus : m.status with
  | halted cause =>
    have hhalted : m.status ≠ .running := by
      rw [hstatus]
      nofun
    exact ⟨_, congrArg Stepped.result (stepAt_of_halted (isHalted_of_status hstatus) _ _),
      hremembers hhalted hhost hpc, nofun⟩
  | running =>
    have hends := Moment.ends ⟨m, clock⟩ hrange hstatus
    have hmisread := hends.misread_iff hrange hpc
    cases hends with
    | failed f h =>
      rw [h.fault?_eq_some] at hmisread
      exact ⟨_, h.result_eq, hmisread, nofun⟩
    | completed d c h =>
      rw [h.fault?_eq] at hmisread
      refine ⟨_, h.result_eq, hmisread, fun d' hd => ?_⟩
      cases hd
      exact Core.ofWord_of_peek hrange h.peek

/-- **A line of the listing tells what a step does that starts there**, as long as no step before it
stored into the program: the step is refused by the decoder exactly if the line is data, and the
text of the instruction that it completes is that of the line. -/
theorem listing_tells_step {setup : Setup} (hm : MadeFrom setup m) (loading : Clock) {rom : Rom}
    (hfit : rom.size ≤ programCapacity)
    (hleads : (m.loadOn loading rom.data).value.1.Leads LeavesMemory past n)
    (hintact : ∀ p ∈ past, ¬ p.Overwrites rom.size)
    (hhost : ∀ reason, n.status ≠ .halted (.host reason)) {k : Nat} (hk : 2 * k + 1 < rom.size)
    (hpc : n.core.registers.pc = 0x200 + 2 * k) (clock : Clock) :
    ∃ line r, (Listing.ofBytes 0x200 rom.data)[k]? = some line ∧
      (rom.listing 0x200)[k]? = some line.render ∧ line.address = 0x200 + 2 * k ∧
      (n.stepOn clock).result = .ok r ∧ (Misread r.error ↔ line.IsData) ∧
      ∀ d, r.instruction = some d → d.text = line.text := by
  have hloaded : MadeFrom setup (m.loadOn loading rom.data).value.1 :=
    hm.performed loading (.load rom.data)
  have hstarts := starts_loadOn m loading hfit
  obtain ⟨hremembers, hholds⟩ := holds_of_leads hloaded hstarts.running (hstarts.holds hfit) hleads
  obtain ⟨hle, hword⟩ := (hholds hintact).word_eq hfit hk (by rw [hpc, Memory.programStart]; omega)
  obtain ⟨r, hr, hmisread, hcompleted⟩ :=
    exists_result (hleads.madeFrom hloaded) hremembers hhost hle clock
  rw [hword] at hmisread hcompleted
  have hline := Listing.getElem?_ofBytes 0x200 hk
  refine ⟨_, r, hline, ?_, rfl, hr, hmisread.trans Listing.isData_iff.symm, fun d hd => ?_⟩
  · rw [Rom.listing, List.getElem?_map, hline]
    rfl
  · exact (Listing.text_wordLine (hcompleted d hd)).symm

/-- A program whose second word is no instruction: its line is data, and the step that comes to it
is refused. -/
theorem listing_tells_refused_step :
    let rom : Rom := ⟨[0x60, 0x01, 0x80, 0x08], "sample"⟩
    let q : Moment := ⟨((sample []).loadOn (.still 1) rom.data).value.1, .still 2⟩
    q.after.core.registers.pc = 0x202 ∧
      ∃ line r, (Listing.ofBytes 0x200 rom.data)[1]? = some line ∧ line.IsData ∧
        (q.after.stepOn (.still 3)).result = .ok r ∧ Misread r.error := by
  intro rom q
  have hm : MadeFrom sampleSetup q.before :=
    (madeFrom_sample []).performed (.still 1) (.load rom.data)
  have hstarts : q.before.Starts _ := starts_loadOn (sample []) (.still 1) (by decide)
  have hrun := hstarts.running
  have hpeek : q.before.core.peek = .ok ⟨0x6001, .ldByte 0 1⟩ := hstarts.peek_eq
  obtain ⟨c, hc⟩ := (q.ends hm.keeps.core.toInRange hrun).exists_completed
    hm.keeps.core.toInRange hpeek rfl
  have hpc : c.registers.pc = 0x202 := by
    rw [hc.touches.pc]
    show q.before.core.registers.pc + 2 = 0x202
    rw [hstarts.registers_eq]
    rfl
  have hgoing : q.after.status = .running :=
    hc.running_after (hm.keeps.not_exited hrun) nofun (by rw [hpc]; decide)
  rw [← hc.core_after] at hpc
  have hleads : q.before.Leads LeavesMemory [q] q.after :=
    Leads.step ⟨rfl, rfl⟩ ⟨[], by simp, rfl, rfl⟩ hrun
  have hintact : ∀ p ∈ [q], ¬ p.Overwrites rom.size := by
    intro p hp
    obtain rfl := List.mem_singleton.1 hp
    rintro ⟨d, hd, a, hfrom, hto, -⟩
    cases hc.completed?_eq_some.symm.trans hd
    exact absurd hto (Nat.not_lt.2 hfrom)
  obtain ⟨line, r, hline, -, -, hr, hmisread, -⟩ :=
    listing_tells_step (k := 1) (madeFrom_sample []) (.still 1) (by decide) hleads hintact
      (by rw [hgoing]; nofun) (by decide) hpc (.still 3)
  have hdata : line.IsData := by
    cases hline
    exact Listing.isData_iff.2 ⟨.undefinedWord 0x8008, rfl⟩
  exact ⟨hpc, line, r, hline, hdata, hr, hmisread.2 hdata⟩

end Machine

end SuperChip
