import SuperChip.Proofs.Instruction.Text
import SuperChip.Proofs.Session.Address

/-!
# Reports of faults

A frame that finds that the machine met a fault prints a report of it. A session prints many other
lines, about its machine and about itself, and none of them can be taken for a report.

- `Session.isReport`: how a report is told from other lines; `Host.reports` are those printed so
  far.
- `Session.Unreported`: lines without a report; `unreported_debugLines`, `unreported_dump`,
  `unreported_trace`, `unreported_memoryLines`, `unreported_listingLines` and `isReport_stepLine`
  are all that is printed about a machine.
- `Machine.Follows`: what may become of a machine as long as it is not started again.
- `Session.Silent`: a session that reported nothing meanwhile.
- `silent_key`, `silent_commandOn`, `silent_shellOn`: **neither keys nor the debug shell report a
  fault**.
-/

namespace SuperChip

open Text

namespace Session

/-! ## Reports -/

/-- What is printed about a fault. -/
def reportOf (f : Fault) : String := "Machine halted: " ++ f.message

/-- Whether a line is a report. -/
def isReport (line : String) : Bool := "Machine halted: ".toList.isPrefixOf line.toList

/-- Lines without a report. -/
def Unreported (lines : List String) : Prop := ∀ line ∈ lines, isReport line = false

instance (lines : List String) : Decidable (Unreported lines) :=
  inferInstanceAs (Decidable (∀ line ∈ lines, _))

variable {line start : String} {lines lines' : List String}

/-- Lines without a report stay without one behind others. -/
theorem unreported_append (h : Unreported lines) (h' : Unreported lines') :
    Unreported (lines ++ lines') :=
  List.forall_mem_append.2 ⟨h, h'⟩

theorem unreported_cons (h : isReport line = false) (h' : Unreported lines) :
    Unreported (line :: lines) :=
  List.forall_mem_cons.2 ⟨h, h'⟩

theorem unreported_nil : Unreported [] := nofun

/-- A report starts with the words that only a report starts with. -/
theorem isReport_iff : isReport line = true ↔ ∃ rest, line = "Machine halted: " ++ rest := by
  rw [isReport, List.isPrefixOf_iff_prefix]
  constructor
  · rintro ⟨rest, hrest⟩
    refine ⟨String.ofList rest, String.toList_inj.1 ?_⟩
    rw [← hrest, String.toList_append, String.toList_ofList (l := rest)]
  · rintro ⟨rest, rfl⟩
    rw [String.toList_append]
    exact List.prefix_append _ _

/-- What is printed about a fault is a report. -/
theorem isReport_reportOf (f : Fault) : isReport (reportOf f) = true := isReport_iff.2 ⟨_, rfl⟩

/-- A line that starts with another letter is no report. -/
theorem isReport_of_head? (h : line.toList.head? ≠ some 'M') : isReport line = false := by
  rw [Bool.eq_false_iff]
  intro hreport
  obtain ⟨rest, rfl⟩ := isReport_iff.1 hreport
  exact h (by rw [String.toList_append]; rfl)

/-- A line that starts with a text of another first letter is no report. -/
theorem isReport_append (h : start.toList.head?.any (· ≠ 'M') = true) (rest : String) :
    isReport (start ++ rest) = false := by
  refine isReport_of_head? ?_
  rw [String.toList_append]
  intro hhead
  cases hstart : start.toList with
  | nil =>
    rw [hstart] at h
    cases h
  | cons c cs =>
    rw [hstart] at h hhead
    cases hhead
    simp at h

theorem unreported_map {α : Type} {f : α → String} (h : ∀ a, isReport (f a) = false) (l : List α) :
    Unreported (l.map f) := by
  intro line hline
  obtain ⟨a, -, rfl⟩ := List.mem_map.1 hline
  exact h a

/-! ## Lines about a machine -/

/-- No message of the categories is a report. -/
theorem unreported_debugLines (categories : Debug.Categories) (events : List Event) :
    Unreported (Debug.lines categories events) := by
  intro line hline
  obtain ⟨e, -, he⟩ := List.mem_filterMap.1 hline
  unfold Debug.line? at he
  split at he
  · cases he
    rw [Debug.render, String.append_assoc, String.append_assoc]
    exact isReport_append (by decide) _
  · cases he

/-- No line of registers is a report. -/
theorem isReport_registerLine (s : Snapshot) (first : Nat) :
    isReport (s.registerLine first) = false := by
  refine isReport_of_head? ?_
  rw [Snapshot.registerLine, String.toList_intercalate]
  cases (s.v.toList.zipIdx.drop first).take 8 with
  | nil => simp
  | cons register rest => cases rest <;> simp

/-- The state of a machine is printed without a report. -/
theorem unreported_dump (s : Snapshot) : Unreported s.lines := by
  have hstatus : isReport s.statusLine = false := by
    rw [Snapshot.statusLine, String.append_assoc]
    exact isReport_append (by decide) _
  have hcounter : isReport s.counterLine = false := by
    simp only [Snapshot.counterLine, String.append_assoc]
    exact isReport_append (by decide) _
  have hstack : isReport s.stackLine = false := isReport_append (by decide) _
  refine unreported_append ?_ ?_
  · exact unreported_cons hstatus (unreported_cons hcounter
      (unreported_cons (isReport_registerLine s 0) (unreported_cons (isReport_registerLine s 8)
        (unreported_cons hstack unreported_nil))))
  · split <;> decide

/-- No entry of a trace is a report. -/
theorem isReport_entry (e : Trace.Entry) : isReport e.render = false := by
  unfold Trace.Entry.render
  dsimp only
  simp only [String.append_assoc]
  exact isReport_append (by decide) _

theorem unreported_trace (t : Trace) (limit : Option Int) : Unreported (t.render limit) :=
  unreported_map isReport_entry _

theorem unreported_traceLines (m : Machine) : Unreported (Shell.traceLines m) := by
  unfold Shell.traceLines
  cases m.trace with
  | some t => exact unreported_trace t _
  | none => exact unreported_cons (by decide) unreported_nil

/-- No instruction is called like a machine. -/
theorem isReport_text (i : Instruction) : isReport i.text = false := by
  rw [Bool.eq_false_iff]
  intro hreport
  obtain ⟨rest, hrest⟩ := isReport_iff.1 hreport
  have hword : firstWord i.text = "Machine" := by
    rw [hrest, show "Machine halted: " = "Machine " ++ "halted: " from rfl, String.append_assoc]
    exact firstWord_append (w := "Machine") rfl (by decide) _
  rw [i.firstWord_text] at hword
  revert hword
  cases i <;> simp only [Instruction.mnemonic] <;> decide

/-- What the shell prints about a step is no report. -/
theorem isReport_stepLine (r : StepResult) : isReport (Shell.stepLine r) = false := by
  unfold Shell.stepLine
  cases r.instruction with
  | some d => exact isReport_text d.instruction
  | none =>
    dsimp only
    cases r.status with
    | running => decide
    | halted cause => exact show isReport "halted" = false by decide

/-- A complaint about an address is no report. -/
theorem unreported_complaint (text : String) (fallback : Int) :
    Unreported (Shell.address text fallback).2 := by
  unfold Shell.address
  split
  · exact unreported_nil
  · split
    · exact unreported_nil
    · exact unreported_cons (isReport_append (by decide) _) unreported_nil

/-- Rows of memory are no reports. -/
theorem unreported_memoryLines (m : Machine) (text : String) :
    Unreported (Shell.memoryLines m text) :=
  unreported_append (unreported_complaint _ _) fun _ hline =>
    isReport_of_head? (Shell.head?_row_ne (by decide) (by decide) hline)

/-- Lines of a listing are no reports. -/
theorem unreported_listingLines (m : Machine) (text : String) :
    Unreported (Shell.listingLines m text) :=
  unreported_append (unreported_complaint _ _) <| unreported_map (fun l =>
    isReport_of_head? (Shell.head?_render_ne (by decide) (by decide) l)) _

end Session

/-! ## What is printed -/

namespace Host

/-- The reports printed so far, the latest first. -/
def reports (h : Host) : List String := h.printed.filter Session.isReport

variable {h : Host}

/-- Of what is printed only the reports are counted. -/
theorem reports_printAll (lines : List String) :
    (h.printAll lines).reports = (lines.filter Session.isReport).reverse ++ h.reports := by
  rw [printAll_eq, reports, List.filter_append, List.filter_reverse]
  rfl

theorem reports_printAll_of_unreported {lines : List String} (hlines : Session.Unreported lines) :
    (h.printAll lines).reports = h.reports := by
  have hnone : lines.filter Session.isReport = [] := by
    rw [List.filter_eq_nil_iff]
    intro line hline
    rw [hlines line hline]
    exact Bool.false_ne_true
  rw [reports_printAll, hnone]
  rfl

theorem reports_observe (events : List Event) : (h.observe events).reports = h.reports :=
  reports_printAll_of_unreported (Session.unreported_debugLines _ events)

/-- A line that is no report leaves the count. -/
theorem reports_print {line : String} (hline : Session.isReport line = false) :
    (h.print line).reports = h.reports := by
  rw [reports, print, List.filter_cons, hline]
  rfl

end Host

/-! ## Machines that are not started again -/

namespace Machine

/-- What becomes of a machine that is not started again: it stays in good order, and once it is
halted nothing but its keypad changes. -/
structure Follows (m m' : Machine) : Prop where
  wellFormed : m.WellFormed → m'.WellFormed
  halted : m.isHalted → ∃ keypad, m' = { m with keypad := keypad }

variable {m m' m'' : Machine}

namespace Follows

theorem refl (m : Machine) : m.Follows m := ⟨id, fun _ => ⟨m.keypad, rfl⟩⟩

theorem trans (hfirst : m.Follows m') (hnext : m'.Follows m'') : m.Follows m'' where
  wellFormed h := hnext.wellFormed (hfirst.wellFormed h)
  halted h := by
    obtain ⟨keypad, rfl⟩ := hfirst.halted h
    obtain ⟨keypad', rfl⟩ := hnext.halted h
    exact ⟨keypad', rfl⟩

end Follows

/-- A machine is followed by what it steps to. -/
theorem follows_stepOn (m : Machine) (clock : Clock) : m.Follows (m.stepOn clock).machine where
  wellFormed h := h.stepAt _ _
  halted h := ⟨m.keypad, congrArg Stepped.machine ((standsStill h).step clock)⟩

/-- It is followed by itself with another keypad. -/
theorem follows_keypad (m : Machine) (keypad : Keypad) : m.Follows { m with keypad := keypad } where
  wellFormed h := ⟨h.core, h.pc_le, h.not_exited, h.program_le⟩
  halted _ := ⟨keypad, rfl⟩

end Machine

namespace Session

variable {s s' s'' : Session} {m : Machine}

/-! ## Sessions that report nothing -/

/-- A session reported nothing, and neither paused nor started its machine again. -/
structure Silent (s s' : Session) : Prop where
  settings : s'.settings = s.settings
  paused : s'.paused = s.paused
  reports : s'.host.reports = s.host.reports
  machine : ∀ m, s.machine = some m → ∃ m', s'.machine = some m' ∧ m.Follows m'

namespace Silent

/-- Nothing happens to the machine. -/
theorem of_machine_eq (hsettings : s'.settings = s.settings) (hpaused : s'.paused = s.paused)
    (hmachine : s'.machine = s.machine) (hreports : s'.host.reports = s.host.reports) :
    s.Silent s' :=
  ⟨hsettings, hpaused, hreports, fun m hm => ⟨m, hmachine.trans hm, .refl m⟩⟩

theorem refl (s : Session) : s.Silent s := of_machine_eq rfl rfl rfl rfl

theorem trans (hfirst : s.Silent s') (hnext : s'.Silent s'') : s.Silent s'' where
  settings := hnext.settings.trans hfirst.settings
  paused := hnext.paused.trans hfirst.paused
  reports := hnext.reports.trans hfirst.reports
  machine m hm := by
    obtain ⟨m', hm', hfollows⟩ := hfirst.machine m hm
    obtain ⟨m'', hm'', hfollows'⟩ := hnext.machine m' hm'
    exact ⟨m'', hm'', hfollows.trans hfollows'⟩

end Silent

/-- Lines without a report are silent. -/
theorem silent_printAll {lines : List String} (h : Unreported lines) (s : Session) :
    s.Silent (s.printAll lines) :=
  .of_machine_eq rfl rfl rfl (Host.reports_printAll_of_unreported h)

theorem silent_print {line : String} (h : isReport line = false) (s : Session) :
    s.Silent (s.print line) :=
  .of_machine_eq rfl rfl rfl (Host.reports_print h)

theorem silent_running (s : Session) (running : Bool) : s.Silent { s with running := running } :=
  .of_machine_eq rfl rfl rfl rfl

theorem silent_console (s : Session) (console : List (Option String)) :
    s.Silent { s with host.console := console } :=
  .of_machine_eq rfl rfl rfl rfl

/-- The machine is changed, and the messages about that are printed. -/
theorem silent_machine (hm : s.machine = some m) {m' : Machine} (hfollows : m.Follows m')
    (events : List Event) : s.Silent ({ s with machine := some m' }.observe events) where
  settings := rfl
  paused := rfl
  reports := Host.reports_observe events
  machine n hn := by
    cases hm.symm.trans hn
    exact ⟨m', rfl, hfollows⟩

/-- A key is silent. -/
theorem silent_key (s : Session) (name : String) (pressed : Bool) :
    s.Silent (s.key name pressed) := by
  unfold key
  cases hm : s.machine with
  | none => exact .refl s
  | some m =>
    dsimp only
    cases if pressed then m.keypad.press name else m.keypad.release name with
    | error e => exact .refl s
    | ok changed => exact silent_machine hm (m.follows_keypad _) _

/-! ## The debug shell -/

/-- Leaving is silent. -/
theorem silent_leave (s : Session) : s.Silent s.leave :=
  (silent_print (by decide) s).trans (silent_running _ false)

theorem silent_refuse (s : Session) : s.Silent s.refuse := silent_print (by decide) s

/-- A command of the shell is silent: it reports no halt, not even that of its own step. -/
theorem silent_executeOn (hm : s.machine = some m) (clock : Clock) (c : Command) :
    s.Silent (s.executeOn clock m c).2 := by
  cases c with
  | resume => exact .refl s
  | quit => exact s.silent_leave
  | registers => exact silent_printAll (unreported_dump _) s
  | trace => exact silent_printAll (unreported_traceLines m) s
  | step =>
    have hstepped := silent_machine hm (m.follows_stepOn clock) (m.stepOn clock).events
    unfold executeOn
    dsimp only
    cases (m.stepOn clock).result with
    | error e => exact hstepped
    | ok r => exact hstepped.trans (silent_print (isReport_stepLine r) _)
  | memory argument => exact silent_printAll (unreported_memoryLines m argument) s
  | disassemble argument => exact silent_printAll (unreported_listingLines m argument) s
  | unknown => exact s.silent_refuse

/-- A line of the shell is silent. -/
theorem silent_commandOn (s : Session) (clock : Clock) (line : String) :
    s.Silent (s.commandOn clock line).2 := by
  cases hm : s.machine with
  | some m =>
    rw [commandOn_eq hm]
    exact silent_executeOn hm clock _
  | none =>
    simp only [commandOn, command, hm]
    cases Command.parse line with
    | quit => exact s.silent_leave
    | unknown => exact s.silent_refuse
    | _ => exact .refl s

/-- So are all lines. -/
theorem silent_readCommandsOn (s : Session) (console : List (Option String)) (clock : Clock) :
    s.Silent (readCommandsOn console clock s) := by
  have hresume (s : Session) (console : List (Option String)) :
      s.Silent ({ s with host.console := console }.print "Resuming emulator.") :=
    (s.silent_console console).trans (silent_print (by decide) _)
  induction console generalizing s clock with
  | nil =>
    unfold readCommandsOn
    split
    · exact s.silent_console _
    · exact hresume s _
  | cons line rest ih =>
    unfold readCommandsOn
    split
    · exact s.silent_console _
    cases line with
    | none => exact hresume s rest
    | some line =>
      have hcommand := s.silent_commandOn clock (lower (strip line))
      dsimp only
      cases hresult : s.commandOn clock (lower (strip line)) with
      | mk stays s' =>
        rw [hresult] at hcommand
        cases stays with
        | error e => exact hcommand.trans (s'.silent_console rest)
        | ok stays =>
          cases stays with
          | true => exact hcommand.trans (ih s' clock.later)
          | false => exact hcommand.trans (s'.silent_console rest)

/-- The whole shell is silent. -/
theorem silent_shellOn (s : Session) (clock : Clock) : s.Silent (s.shellOn clock) := by
  have hgreeting : Unreported Shell.greeting := by decide
  exact (silent_printAll hgreeting s).trans (silent_readCommandsOn _ _ clock)

end Session

end SuperChip
