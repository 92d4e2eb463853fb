import SuperChip.Proofs.Session.Tone
import SuperChip.Session.Run.Clock

/-!
# What asks for nothing

Between two pictures a session works on its machine, prints lines and reads from the console. None
of this is asked of the window or of the audio device.

- `Session.Quiet`: a session that asked for nothing meanwhile.
- `quiet_stepTimesOn`, `quiet_reloadOn`, `quiet_shellOn`: the steps of a frame, loading the program
  file again and the debug shell.
- `quiet_handleAllOn`: **whatever happens to the window is quiet**, on whatever clocks.
-/

namespace SuperChip

namespace Session

variable {s s' s'' : Session}

/-! ## Sessions that ask for nothing -/

/-- A session asked for nothing, and kept its settings and its beeper. -/
structure Quiet (s s' : Session) : Prop where
  settings : s'.settings = s.settings
  beeper : s'.beeper = s.beeper
  host : s.host.Quiet s'.host

namespace Quiet

theorem refl (s : Session) : s.Quiet s := ⟨rfl, rfl, .refl _⟩

theorem trans (hfirst : s.Quiet s') (hnext : s'.Quiet s'') : s.Quiet s'' :=
  ⟨hnext.settings.trans hfirst.settings, hnext.beeper.trans hfirst.beeper,
    hfirst.host.trans hnext.host⟩

end Quiet

/-- Messages are quiet. -/
theorem quiet_observe (s : Session) (events : List Event) : s.Quiet (s.observe events) :=
  ⟨rfl, rfl, Host.quiet_observe events⟩

theorem quiet_print (s : Session) (line : String) : s.Quiet (s.print line) :=
  ⟨rfl, rfl, rfl, rfl⟩

theorem quiet_printAll (s : Session) (lines : List String) : s.Quiet (s.printAll lines) :=
  ⟨rfl, rfl, Host.quiet_printAll lines⟩

theorem quiet_machine (s : Session) (machine : Option Machine) (running paused : Bool) :
    s.Quiet { s with machine := machine, running := running, paused := paused } :=
  ⟨rfl, rfl, .refl _⟩

/-- Loading a program file is quiet. -/
theorem quiet_loadRomOn (s : Session) (clock : Clock) (m : Machine) (path : Path) :
    s.Quiet (s.loadRomOn clock m path).2.2 := by
  unfold loadRomOn
  cases readRom s.host.files path with
  | error e => exact .refl s
  | ok rom =>
    have hloaded := s.quiet_observe (m.loadOn clock rom.data).events
    dsimp only
    cases (m.loadOn clock rom.data).value.2.error with
    | some f => exact hloaded
    | none => exact hloaded.trans (quiet_observe _ _)

/-- So is making a machine. -/
theorem quiet_createMachineOn (s : Session) (clock : Clock) (path : Option Path) :
    s.Quiet (s.createMachineOn clock path).2 := by
  unfold createMachineOn
  cases Machine.switchOn s.machineSetup clock s.printsTrace with
  | error e => exact .refl s
  | ok created =>
    have hcreated := s.quiet_observe created.events
    cases path with
    | none => exact hcreated
    | some path =>
      have hloaded := hcreated.trans (quiet_loadRomOn _ (clock.skip 4) created.value path)
      dsimp only
      rcases hload : loadRomOn _ (clock.skip 4) created.value path with ⟨result, m, s'⟩
      rw [hload] at hloaded
      cases result <;> exact hloaded

/-- With nothing to load again it is quiet, too. -/
theorem quiet_reload_of_none (h : s.settings.romPath = none ∨ s.machine = none) :
    s.Quiet s.reload.2 := by
  unfold reload
  cases hpath : s.settings.romPath with
  | none => exact .refl s
  | some path =>
    cases hm : s.machine with
    | none =>
      dsimp only
      cases readRom s.host.files path <;> exact .refl s
    | some m => simp [hpath, hm] at h

/-- Loading again is quiet. -/
theorem quiet_reloadOn (s : Session) (clock : Clock) : s.Quiet (s.reloadOn clock).2 := by
  unfold reloadOn
  cases hpath : s.settings.romPath with
  | none => exact quiet_reload_of_none (.inl hpath)
  | some path =>
    cases hm : s.machine with
    | none => exact quiet_reload_of_none (.inr hm)
    | some m =>
      have hloaded := s.quiet_loadRomOn clock m path
      dsimp only
      rcases hload : s.loadRomOn clock m path with ⟨result, m', s'⟩
      rw [hload] at hloaded
      cases result with
      | error e => exact hloaded.trans (quiet_machine _ _ _ _)
      | ok u => exact hloaded.trans (quiet_machine _ _ _ _)

/-- Reporting a halt is quiet. -/
theorem quiet_noteHalt (s : Session) (m : Machine) (error : Option Fault) :
    s.Quiet (s.noteHalt m error) := by
  unfold noteHalt
  cases error with
  | none => exact quiet_machine s _ _ _
  | some f =>
    dsimp only
    split
    · exact quiet_machine s _ _ _
    · exact (s.quiet_printAll _).trans (quiet_machine _ _ _ _)

/-- Stepping is quiet, and the tone waits for the end of the frame. -/
theorem quiet_stepTimesOn (limit : Nat) (clock : Clock) (s : Session) :
    s.Quiet (stepTimesOn limit clock s) := by
  induction limit generalizing s clock with
  | zero => exact .refl s
  | succ limit ih =>
    unfold stepTimesOn
    cases s.machine with
    | none => exact .refl s
    | some m =>
      have hstepped : s.Quiet _ :=
        (s.quiet_machine (some (m.stepOn clock).machine) s.running s.paused).trans
          (quiet_observe _ (m.stepOn clock).events)
      dsimp only
      cases (m.stepOn clock).result with
      | error e => exact hstepped
      | ok r =>
        dsimp only
        split
        · exact hstepped.trans (quiet_noteHalt _ _ _)
        · exact hstepped.trans (ih _ _)

/-- A key is quiet. -/
theorem quiet_key (s : Session) (name : String) (pressed : Bool) :
    s.Quiet (s.key name pressed) := by
  unfold key
  cases s.machine with
  | none => exact .refl s
  | some m =>
    dsimp only
    cases if pressed then m.keypad.press name else m.keypad.release name with
    | error e => exact .refl s
    | ok changed => exact (s.quiet_machine _ _ _).trans (quiet_observe _ _)

/-! ## The debug shell -/

/-- A step from the shell is quiet. -/
theorem quiet_stepCommand (s : Session) (clock : Clock) (m : Machine) :
    s.Quiet (s.executeOn clock m .step).2 := by
  have hstepped : s.Quiet _ :=
    (s.quiet_machine (some (m.stepOn clock).machine) s.running s.paused).trans
      (quiet_observe _ (m.stepOn clock).events)
  unfold executeOn
  dsimp only
  cases (m.stepOn clock).result with
  | error e => exact hstepped
  | ok r => exact hstepped.trans (quiet_print _ _)

/-- So is every other command of the shell. -/
theorem quiet_execute (s : Session) (m : Machine) (c : Command) : s.Quiet (s.execute m c).2 := by
  cases c with
  | resume => exact .refl s
  | quit => exact (s.quiet_print _).trans (quiet_machine _ _ _ _)
  | registers => exact s.quiet_printAll _
  | trace => exact s.quiet_printAll _
  | step =>
    rw [← executeOn_still]
    exact quiet_stepCommand _ _ _
  | memory argument => exact s.quiet_printAll _
  | disassemble argument => exact s.quiet_printAll _
  | unknown => exact s.quiet_print _

theorem quiet_executeOn (s : Session) (clock : Clock) (m : Machine) (c : Command) :
    s.Quiet (s.executeOn clock m c).2 := by
  cases c with
  | step => exact quiet_stepCommand _ _ _
  | _ => exact s.quiet_execute m _

/-- A line of the shell is quiet. -/
theorem quiet_commandOn (s : Session) (clock : Clock) (line : String) :
    s.Quiet (s.commandOn clock line).2 := by
  unfold commandOn
  cases hm : s.machine with
  | some m => exact s.quiet_executeOn clock m _
  | none =>
    unfold command
    rw [hm]
    cases Command.parse line with
    | quit => exact (s.quiet_print _).trans (quiet_machine _ _ _ _)
    | unknown => exact s.quiet_print _
    | _ => exact .refl s

/-- So are all lines. -/
theorem quiet_readCommandsOn (console : List (Option String)) (clock : Clock) (s : Session) :
    s.Quiet (readCommandsOn console clock s) := by
  have hconsole (s : Session) (console : List (Option String)) :
      s.Quiet { s with host.console := console } := ⟨rfl, rfl, rfl, rfl⟩
  induction console generalizing s clock with
  | nil =>
    unfold readCommandsOn
    split
    · exact hconsole s _
    · exact (hconsole s _).trans (quiet_print _ _)
  | cons line rest ih =>
    unfold readCommandsOn
    split
    · exact hconsole s _
    · cases line with
      | none => exact (hconsole s _).trans (quiet_print _ _)
      | some line =>
        have hcommand := s.quiet_commandOn clock (Text.lower (Text.strip line))
        dsimp only
        cases hresult : s.commandOn clock (Text.lower (Text.strip line)) with
        | mk goesOn s' =>
          rw [hresult] at hcommand
          cases goesOn with
          | error e => exact hcommand.trans (hconsole s' rest)
          | ok stays =>
            cases stays with
            | true => exact hcommand.trans (ih _ s')
            | false => exact hcommand.trans (hconsole s' rest)

/-- Opening the shell is quiet. -/
theorem quiet_shellOn (s : Session) (clock : Clock) : s.Quiet (s.shellOn clock) :=
  (s.quiet_printAll _).trans (quiet_readCommandsOn _ _ _)

/-! ## Events -/

/-- Whatever happens to the window is quiet. -/
theorem quiet_handleOn (s : Session) (clock : Clock) (e : WindowEvent) :
    s.Quiet (s.handleOn clock e).2 := by
  cases e with
  | quit => exact quiet_machine s _ _ _
  | keyDown name =>
    unfold handleOn
    dsimp only
    split
    · exact s.quiet_shellOn clock
    · split
      · exact s.quiet_reloadOn clock
      · exact s.quiet_key _ _
  | keyUp name => exact s.quiet_key _ _
  | other => exact .refl s

/-- So is all of it. -/
theorem quiet_handleAllOn (events : List WindowEvent) (clocks : Nat → Clock) (s : Session) :
    s.Quiet (handleAllOn clocks events s).2 := by
  induction events generalizing s clocks with
  | nil => exact .refl s
  | cons e rest ih =>
    have hfirst := s.quiet_handleOn (clocks 0) e
    unfold handleAllOn
    cases hhandled : s.handleOn (clocks 0) e with
    | mk result s' =>
      rw [hhandled] at hfirst
      cases result with
      | error err => exact hfirst
      | ok u => exact hfirst.trans (ih _ s')

end Session

end SuperChip
