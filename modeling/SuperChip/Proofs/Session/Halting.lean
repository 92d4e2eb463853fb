import SuperChip.Proofs.Session.Loading
import SuperChip.Proofs.Session.Report
import SuperChip.Session.Run
import Mathlib.Logic.Relation

/-!
# Halting and reporting

A machine may halt inside a frame, by a step of the debug shell or by ending its program. Whichever
way it was, the next frame that finds it halted pauses the session, and reports the fault if there
was one. From then on frames and the debug shell leave the machine alone, until its program is
loaded again.

- `Session.Reported`: what holds of a session since its program was loaded: it is paused only with a
  halted machine, and the fault was reported just if it is paused.
- `Session.Reported.frame`: **what a frame keeps, and that it pauses just if the machine is
  halted**.
- `Session.Turn`, `Session.Lasts`: what can happen to a session other than loading its program
  again; `Session.Loads` is loading it, and `Session.GoesOn` is anything at all.
- `Session.Begins`: a session whose program was just loaded; `Session.Begins.reported` is that the
  invariant holds then.
- `goesOn_passes`: what happens to the window is made of turns and loads.
- `halt_is_reported_once`: **a fault is reported once, and a session that is paused stays as it
  is**.

About `Chip8App._step_frame`.
-/

namespace SuperChip

/-! ## Runs of machines -/

namespace Machine

variable {m : Machine}

theorem isHalted_of_fault? {f : Fault} (hf : m.status.fault? = some f) : m.isHalted := by
  rw [isHalted]
  cases hstatus : m.status with
  | running =>
    rw [hstatus] at hf
    cases hf
  | halted cause => rfl

/-- A program that starts with a return halts at once. -/
theorem Starts.status_runOn_of_return (h : m.Starts [0x00, 0xEE]) (clock : Clock) {limit : Int}
    (hlimit : 0 < limit) :
    (m.runOn clock limit).machine.status = .halted (.fault (.stackEmpty 0x200)) := by
  obtain ⟨timers, random, hcore⟩ := h.core_eq
  obtain ⟨c, hs⟩ : ∃ c, (m.tickAt (clock 0) (clock 1)).value.core.step m.keypad.snapshot =
      (.error (.fault (.stackEmpty 0x200)), c) := by
    show ∃ c, ({ m.core with timers := _ } : Core).step _ = _
    rw [hcore]
    exact ⟨_, Core.step_start_return _ _ _⟩
  obtain ⟨hm, hr⟩ := proceed_of_fault (t := m.tickAt (clock 0) (clock 1)) h.running hs
  have hstep : m.stepOn clock = proceed (m.tickAt (clock 0) (clock 1)) :=
    stepAt_of_running h.running _ _
  rw [← hstep] at hm hr
  have hstatus : (m.stepOn clock).machine.status = .halted (.fault (.stackEmpty 0x200)) := by
    rw [hm]
    rfl
  obtain ⟨count, hcount⟩ : ∃ count, limit.toNat = count + 1 := ⟨limit.toNat - 1, by omega⟩
  have hrest := (standsStill (isHalted_of_status hstatus)).run clock.later count
  rw [runOn, Int.toNat_natCast] at hrest
  have hgoing : m.isHalted = false := m.isHalted_eq_false_iff.2 h.running
  rw [runOn, hcount, runStepsOn]
  simp only [hgoing, Bool.false_eq_true, if_false, hr, hrest]
  exact hstatus

theorem follows_runStepsOn (m : Machine) (clock : Clock) (limit : Nat) :
    m.Follows (runStepsOn limit clock m).machine :=
  runStepsOn_preserves (fun n clock h => h.trans (n.follows_stepOn clock)) (.refl m) clock limit

end Machine

/-- What is printed about a fault holds one report of it. -/
theorem Host.reports_haltReport (h : Host) (m : Machine) (f : Fault) :
    (h.printAll (Session.haltReport m f)).reports = Session.reportOf f :: h.reports := by
  have hrest : Session.Unreported (Session.haltReport m f).tail := by
    rw [Session.haltReport]
    cases m.trace with
    | some t => exact Session.unreported_trace t _
    | none => exact Session.unreported_nil
  refine (Host.reports_printAll_of_unreported (h := h.print (Session.reportOf f)) hrest).trans ?_
  rw [Host.reports, Host.print, List.filter_cons, Session.isReport_reportOf]
  rfl

theorem Beeper.printed_play (b : Beeper) (h : Host) : (b.play h).2.printed = h.printed := by
  unfold play takeChannel
  cases b.channel with
  | some channel => rfl
  | none =>
    unfold Host.findChannel
    dsimp only
    cases h.freeChannels.next.1 <;> rfl

/-- Switching the tone is told of, but not as a report. -/
theorem Beeper.reports_setActive (b : Beeper) (active : Bool) (h : Host) :
    (b.setActive active h).2.reports = h.reports := by
  unfold setActive
  split
  · rfl
  refine Eq.trans ?_ (Host.reports_observe (h := h) [.tone active])
  refine congrArg (List.filter Session.isReport) ?_
  cases active with
  | true => exact printed_play _ _
  | false =>
    show ({ b with active := false }.silence _).printed = _
    unfold silence
    cases b.channel <;> rfl

namespace Session

variable {base s s' s'' : Session} {m m' : Machine}

/-! ## The invariant -/

/-- The reports that a session owes for its machine: one if it is paused because of a fault. -/
def due (s : Session) (m : Machine) : List String :=
  if s.paused then (m.status.fault?.map reportOf).toList else []

/-- What holds of a session and its machine since its program was loaded, when it was `base`. -/
structure Reported (base : Session) (m : Machine) (s : Session) : Prop where
  machine : s.machine = some m
  settings : s.settings = base.settings
  cycles : 0 < base.settings.cyclesPerFrame
  wellFormed : m.WellFormed
  /-- The session does not pause by itself. -/
  halted : s.paused = true → m.isHalted = true
  /-- It has reported what it owes, and nothing else. -/
  reports : s.host.reports = s.due m ++ base.host.reports

namespace Reported

/-- There is one report at the most, and of no other fault. -/
theorem reports_cases (h : Reported base m s) : s.host.reports = base.host.reports ∨
    ∃ f, m.status.fault? = some f ∧ s.host.reports = reportOf f :: base.host.reports := by
  have hreports := h.reports
  unfold due at hreports
  split at hreports
  · cases hfault : m.status.fault? with
    | none =>
      rw [hfault] at hreports
      exact .inl hreports
    | some f =>
      rw [hfault] at hreports
      exact .inr ⟨f, rfl, hreports⟩
  · exact .inl hreports

/-- The report is there once the session is paused. -/
theorem reports_of_paused (h : Reported base m s) (hpaused : s.paused = true) {f : Fault}
    (hf : m.status.fault? = some f) : s.host.reports = reportOf f :: base.host.reports := by
  rw [h.reports, due, if_pos hpaused, hf]
  rfl

/-- What reports nothing and does not start the machine again keeps the invariant. -/
theorem silent (h : Reported base m s) (hsilent : s.Silent s') :
    ∃ m', m.Follows m' ∧ Reported base m' s' := by
  obtain ⟨m', hm', hfollows⟩ := hsilent.machine m h.machine
  have hhalted (hpaused : s.paused = true) : m'.status = m.status := by
    obtain ⟨keypad, rfl⟩ := hfollows.halted (h.halted hpaused)
    rfl
  refine ⟨m', hfollows, hm', hsilent.settings.trans h.settings, h.cycles,
    hfollows.wellFormed h.wellFormed, fun hpaused => ?_, ?_⟩
  · rw [hsilent.paused] at hpaused
    rw [Machine.isHalted, hhalted hpaused]
    exact h.halted hpaused
  · rw [hsilent.reports, h.reports, due, due, hsilent.paused]
    by_cases hpaused : s.paused
    · rw [hhalted hpaused]
    · rw [if_neg hpaused, if_neg hpaused]

/-- A frame that finds the machine halted pauses, and reports the fault if it was not paused. -/
theorem noteHalt (h : Reported base m s) (hhalted : m.isHalted) :
    Reported base m (s.noteHalt m m.status.fault?) ∧
      (s.noteHalt m m.status.fault?).paused = true := by
  have hsame : m.status.fault? = none ∨ s.paused = true →
      Reported base m { s with paused := true } := by
    intro hquiet
    refine ⟨h.machine, h.settings, h.cycles, h.wellFormed, fun _ => hhalted, ?_⟩
    rw [h.reports, due, due]
    obtain hnone | hpaused := hquiet
    · rw [hnone]
      simp
    · rw [if_pos hpaused, if_pos rfl]
  refine ⟨?_, rfl⟩
  unfold Session.noteHalt
  cases hfault : m.status.fault? with
  | none => exact hsame (.inl hfault)
  | some f =>
    by_cases hpaused : s.paused
    · simp only [if_pos hpaused]
      exact hsame (.inr hpaused)
    · simp only [if_neg hpaused]
      refine ⟨h.machine, h.settings, h.cycles, h.wellFormed, fun _ => hhalted, ?_⟩
      have hbefore : s.host.reports = base.host.reports := by
        rw [h.reports, due, if_neg hpaused, List.nil_append]
      refine (Host.reports_haltReport s.host m f).trans ?_
      rw [hbefore, due, if_pos rfl, hfault]
      rfl

/-! ## Frames -/

/-- The steps of a frame keep the invariant. There has to be one to find out that the machine was
halted before. -/
theorem stepTimesOn (h : Reported base m s) (clock : Clock) (limit : Nat) :
    Reported base (Machine.runStepsOn limit clock m).machine (stepTimesOn limit clock s) ∧
      (s.paused = m.isHalted ∨ 0 < limit →
        (Session.stepTimesOn limit clock s).paused =
          (Machine.runStepsOn limit clock m).machine.isHalted) := by
  -- the session, its machine and the clock are others after each step
  induction limit generalizing s m clock with
  | zero => exact ⟨h, fun hor => hor.resolve_right (Nat.lt_irrefl 0)⟩
  | succ limit ih =>
    unfold Session.stepTimesOn Machine.runStepsOn
    simp only [h.machine]
    by_cases hhalted : m.isHalted
    · have hstill := (Machine.standsStill hhalted).step clock
      have hsame : { s with machine := some m }.observe [] = s := by
        rw [← h.machine]
        rfl
      obtain ⟨hnoted, hpaused⟩ := h.noteHalt hhalted
      have hr : StepResult.halted ⟨m.status, none, false, m.status.fault?⟩ = true := hhalted
      simp only [hstill, hr, if_true, hhalted, hsame]
      exact ⟨hnoted, fun _ => hpaused⟩
    · obtain ⟨r, hr, htells⟩ := Machine.exists_tellsStep h.wellFormed.core.toInRange clock
      have hsilent := silent_machine h.machine (m.follows_stepOn clock) (m.stepOn clock).events
      obtain ⟨m', -, hstepped⟩ := h.silent hsilent
      cases hstepped.machine
      have hrunning : s.paused = false := by
        rw [Bool.eq_false_iff]
        exact fun hpaused => hhalted (h.halted hpaused)
      have hstatus : r.halted = (m.stepOn clock).machine.isHalted := by
        rw [StepResult.halted, htells.status, Machine.isHalted]
      simp only [hr, hstatus, hhalted, Bool.false_eq_true, if_false]
      by_cases hnext : (m.stepOn clock).machine.isHalted
      · obtain ⟨hnoted, hpaused⟩ := hstepped.noteHalt hnext
        have hrest := (Machine.standsStill hnext).run clock.later limit
        rw [Machine.runOn, Int.toNat_natCast] at hrest
        simp only [hnext, if_true, htells.error, hrest]
        exact ⟨hnoted, fun _ => hpaused⟩
      · obtain ⟨hreported, hpaused⟩ := ih hstepped clock.later
        simp only [hnext, Bool.false_eq_true, if_false]
        refine ⟨hreported, fun _ => hpaused (.inl ?_)⟩
        rw [Bool.eq_false_iff.2 hnext]
        exact hrunning

/-- **A frame runs the machine and keeps the invariant, and it pauses just if the machine is
halted.** -/
theorem frame (h : Reported base m s) (clock : Clock) :
    Reported base (m.runOn clock s.settings.cyclesPerFrame).machine (s.stepFrameOn clock) ∧
      (s.stepFrameOn clock).paused =
        (m.runOn clock s.settings.cyclesPerFrame).machine.isHalted := by
  obtain ⟨hreported, hpaused⟩ := h.stepTimesOn clock s.settings.cyclesPerFrame.toNat
  refine ⟨hreported, hpaused (.inr ?_)⟩
  have hcycles := h.cycles
  rw [h.settings]
  omega

end Reported

/-! ## What can happen -/

/-- Something happens that no machine and no report has to do with. -/
structure Aside (s s' : Session) : Prop where
  settings : s'.settings = s.settings
  paused : s'.paused = s.paused
  machine : s'.machine = s.machine
  reports : s'.host.reports = s.host.reports

/-- Something happens other than loading the program again. -/
inductive Turn (s : Session) : Session → Prop
  | frame (clock : Clock) : Turn s (s.stepFrameOn clock)
  | key (name : String) (pressed : Bool) : Turn s (s.key name pressed)
  | command (clock : Clock) (line : String) : Turn s (s.commandOn clock line).2
  | shell (clock : Clock) : Turn s (s.shellOn clock)
  /-- Loading the program again fails. -/
  | failed {e : SessionError} (h : s.reload.1 = .error e) : Turn s s.reload.2
  /-- There is no program to load. -/
  | unnamed (h : s.settings.romPath = none) : Turn s s.reload.2
  | aside {s' : Session} (h : s.Aside s') : Turn s s'

/-- The program is loaded again. -/
structure Loads (s s' : Session) : Prop where
  named : s.settings.romPath ≠ none
  result : s.reload = (.ok (), s')

/-- A session goes on without loading its program again. -/
def Lasts : Session → Session → Prop := Relation.ReflTransGen Turn

/-- A session goes on. -/
def GoesOn : Session → Session → Prop := Relation.ReflTransGen fun s s' => s.Turn s' ∨ s.Loads s'

/-- A session whose program was just loaded, at first or again. -/
inductive Begins : Session → Prop
  | made {settings : Settings} {host : Host} {s₀ s : Session} {path : Option Path} {m : Machine}
    (running : Bool) (hcreated : create settings host = .ok s₀)
    (hmade : s₀.createMachine path = (.ok m, s)) :
    Begins { s with machine := some m, running := running }
  | loaded {s s' s'' : Session} (h : Begins s) (hgoes : s.GoesOn s') (hloads : s'.Loads s'') :
    Begins s''

/-- What can happen keeps the invariant, and a session that is paused stays so. -/
theorem Reported.turn (h : Reported base m s) (hturn : s.Turn s') :
    ∃ m', m.Follows m' ∧ Reported base m' s' ∧ (s.paused = true → s'.paused = true) := by
  have hsilent (hsilent : s.Silent s') :
      ∃ m', m.Follows m' ∧ Reported base m' s' ∧ (s.paused = true → s'.paused = true) := by
    obtain ⟨m', hfollows, hreported⟩ := h.silent hsilent
    exact ⟨m', hfollows, hreported, fun hpaused => hsilent.paused.trans hpaused⟩
  cases hturn with
  | frame clock =>
    obtain ⟨hreported, hframe⟩ := h.frame clock
    refine ⟨_, m.follows_runStepsOn clock _, hreported, fun hpaused => ?_⟩
    rw [hframe, (Machine.standsStill (h.halted hpaused)).run]
    exact h.halted hpaused
  | key name pressed => exact hsilent (s.silent_key name pressed)
  | command clock line => exact hsilent (s.silent_commandOn clock line)
  | shell clock => exact hsilent (s.silent_shellOn clock)
  | failed hfailed =>
    rw [reload_of_error hfailed] at hsilent ⊢
    exact hsilent (.refl s)
  | unnamed hpath =>
    have hsame : s.reload = (.ok (), s) := by simp only [reload, hpath]
    rw [hsame] at hsilent ⊢
    exact hsilent (.refl s)
  | aside haside =>
    exact hsilent (.of_machine_eq haside.settings haside.paused haside.machine haside.reports)

/-- A halt stays reported. -/
theorem Reported.lasts (h : Reported base m s) (hlasts : s.Lasts s') :
    ∃ m', m.Follows m' ∧ Reported base m' s' ∧ (s.paused = true → s'.paused = true) := by
  induction hlasts with
  | refl => exact ⟨m, .refl m, h, id⟩
  | tail _ hturn ih =>
    obtain ⟨m', hfollows, hreported, hpaused⟩ := ih
    obtain ⟨m'', hfollows', hreported', hpaused'⟩ := hreported.turn hturn
    exact ⟨m'', hfollows.trans hfollows', hreported', fun h => hpaused' (hpaused h)⟩

/-! ## Sessions whose program was just loaded -/

/-- The invariant holds of a session with a machine that runs. -/
theorem reported_of_running (hm : s.machine = some m) (hcycles : 0 < s.settings.cyclesPerFrame)
    (hwf : m.WellFormed) (hpaused : s.paused = false) : Reported s m s where
  machine := hm
  settings := rfl
  cycles := hcycles
  wellFormed := hwf
  halted h := by
    rw [hpaused] at h
    cases h
  reports := by
    rw [due, if_neg (Bool.eq_false_iff.1 hpaused)]
    rfl

/-- A session is made with at least one instruction a frame, and goes on. -/
theorem cycles_pos_of_create {settings : Settings} {host : Host}
    (h : create settings host = .ok s) :
    0 < s.settings.cyclesPerFrame ∧ s.paused = false := by
  unfold create at h
  split at h
  · cases h
  split at h
  · cases h
  next hcycles =>
  cases hpalette : Palette.ofColours? settings.palette with
  | error e =>
    rw [hpalette] at h
    cases h
  | ok palette =>
    rw [hpalette] at h
    cases h
    exact ⟨Int.not_le.1 hcycles, rfl⟩

/-- The machine of a session is made with a program, and the session is as it was. -/
theorem of_createMachine {path : Option Path} (h : s.createMachine path = (.ok m, s')) :
    m.WellFormed ∧ s'.settings = s.settings ∧ s'.paused = s.paused := by
  unfold createMachine at h
  split at h
  · cases h
  next created hcreated =>
  dsimp only at h
  split at h
  · cases h
  next path =>
  obtain ⟨e, he⟩ | ⟨bytes, hread, hsize⟩ :=
    refuses_or_read (s.observe created.events).host.files path
  · rw [loadRom_of_refuses he] at h
    cases h
  · rw [loadRom_of_read hread hsize] at h
    cases h
    exact ⟨Machine.WellFormed.load _ bytes, rfl, rfl⟩

/-- After a load nothing is to be reported. -/
theorem Loads.reported (h : s.Loads s') (hcycles : 0 < s.settings.cyclesPerFrame) :
    s'.paused = false ∧ ∃ m, Reported s' m s' := by
  have hspec := s.reloads
  rw [h.result] at hspec
  cases hspec with
  | unnamed hpath => exact absurd hpath h.named
  | @loaded path m bytes hpath hm hread hsize =>
    refine ⟨rfl, _, reported_of_running rfl hcycles ?_ rfl⟩
    exact (Machine.follows_keypad _ _).wellFormed (Machine.WellFormed.load _ bytes)

/-- Whatever happens, the invariant holds since the program was loaded for the last time. -/
theorem Reported.goesOn (h : Reported base m s) (hgoes : s.GoesOn s') :
    ∃ base m', Reported base m' s' := by
  induction hgoes with
  | refl => exact ⟨base, m, h⟩
  | tail _ hnext ih =>
    obtain ⟨base, m', hreported⟩ := ih
    obtain hturn | hloads := hnext
    · obtain ⟨m'', -, hreported', -⟩ := hreported.turn hturn
      exact ⟨base, m'', hreported'⟩
    · obtain ⟨-, m'', hreported'⟩ :=
        hloads.reported (hreported.settings ▸ hreported.cycles)
      exact ⟨_, m'', hreported'⟩

theorem Begins.reported (h : s.Begins) : s.paused = false ∧ ∃ m, Reported s m s := by
  induction h with
  | made running hcreated hmade =>
    obtain ⟨hcycles, hpaused⟩ := cycles_pos_of_create hcreated
    obtain ⟨hwf, hsettings, hsame⟩ := of_createMachine hmade
    have hstill := hsame.trans hpaused
    exact ⟨hstill, _, reported_of_running rfl (hsettings ▸ hcycles) hwf hstill⟩
  | loaded _ hgoes hloads ih =>
    obtain ⟨-, m, hreported⟩ := ih
    obtain ⟨base, m', hreported'⟩ := hreported.goesOn hgoes
    exact hloads.reported (hreported'.settings ▸ hreported'.cycles)

/-! ## What happens to the window -/

namespace GoesOn

theorem turn (h : s.Turn s') : s.GoesOn s' := .single (.inl h)

theorem aside (h : s.Aside s') : s.GoesOn s' := turn (.aside h)

/-- The host is changed, but nothing is printed meanwhile. -/
theorem host {h : Host} (hprinted : h.printed = s.host.printed) : s.GoesOn { s with host := h } :=
  aside ⟨rfl, rfl, rfl, congrArg (List.filter isReport) hprinted⟩

end GoesOn

/-- A session goes on when its program is loaded again. -/
theorem goesOn_reload (s : Session) : s.GoesOn s.reload.2 := by
  cases hpath : s.settings.romPath with
  | none => exact .turn (.unnamed hpath)
  | some path =>
    cases hresult : s.reload.1 with
    | error e => exact .turn (.failed hresult)
    | ok u => exact .single (.inr ⟨by simp [hpath], Prod.ext hresult rfl⟩)

/-- It does whatever happens to the window. -/
theorem goesOn_handle (s : Session) (e : WindowEvent) : s.GoesOn (s.handle e).2 := by
  cases e with
  | quit => exact .aside ⟨rfl, rfl, rfl, rfl⟩
  | keyDown name =>
    unfold handle
    dsimp only
    split
    · rw [← shellOn_still]
      exact .turn (.shell _)
    split
    · exact s.goesOn_reload
    · exact .turn (.key name true)
  | keyUp name => exact .turn (.key name false)
  | other => exact .refl

theorem goesOn_handleAll (events : List WindowEvent) (s : Session) :
    s.GoesOn (s.handleAll events).2 := by
  induction events generalizing s with
  | nil => exact .refl
  | cons e rest ih =>
    have hfirst := s.goesOn_handle e
    unfold handleAll
    cases hhandled : s.handle e with
    | mk result s' =>
      rw [hhandled] at hfirst
      cases result with
      | error err => exact hfirst
      | ok u => exact hfirst.trans (ih s')

theorem goesOn_updateTone (s : Session) : s.GoesOn s.updateTone := by
  unfold updateTone
  split
  · exact .aside ⟨rfl, rfl, rfl, Beeper.reports_setActive _ _ _⟩
  · exact .refl

/-- It does in every frame. -/
theorem goesOn_pass (s : Session) (p : Pass) : s.GoesOn (s.pass p).2 := by
  have hawaited : s.GoesOn { s with host := s.host.await p } := by
    obtain ⟨now, files, hawait⟩ := s.host.exists_await_eq p
    rw [hawait]
    exact .host rfl
  have hhandled := hawaited.trans (goesOn_handleAll p.events _)
  unfold pass
  split
  next e s' h =>
    rw [h] at hhandled
    exact hhandled
  next s' h =>
    rw [h] at hhandled
    have hstepped : s'.GoesOn (if s'.paused then s' else s'.stepFrame) := by
      split
      · exact .refl
      · rw [← stepFrameOn_still]
        exact .turn (.frame _)
    dsimp only
    generalize (if s'.paused then s' else s'.stepFrame) = stepped at hstepped
    have hdrawn := hhandled.trans hstepped
    unfold draw
    cases stepped.picture stepped.windowSize.1 with
    | error e => exact hdrawn
    | ok frame =>
      have hshown : stepped.GoesOn ((stepped.call (.blit frame)).call .flip) := .host rfl
      have htuned := goesOn_updateTone ((stepped.call (.blit frame)).call .flip)
      have hticked (s : Session) : s.GoesOn (s.call (.tick frameRate)) := .host rfl
      exact (hdrawn.trans hshown).trans (htuned.trans (hticked _))

/-- What happens to the window is made of turns and loads. -/
theorem goesOn_passes (happenings : List Pass) (s : Session) :
    s.GoesOn (passes happenings s).2 := by
  induction happenings generalizing s with
  | nil =>
    unfold passes
    split
    · exact s.goesOn_pass closing
    · exact .refl
  | cons p rest ih =>
    have hfirst := s.goesOn_pass p
    unfold passes
    split
    · cases hpass : s.pass p with
      | mk result s' =>
        rw [hpass] at hfirst
        cases result with
        | error e => exact hfirst
        | ok u => exact hfirst.trans (ih s')
    · exact .refl

/-! ## Everything together -/

/-- **A fault is reported once, and a session that is paused stays as it is.** Between two loads of
its program a session prints one report at the most, and that of the fault which its machine shows.
A frame takes no more steps than the settings say and leaves a halted machine alone. It pauses the
session just if the machine is halted then, and a fault is reported from that moment on. As long as
the program is not loaded again, nothing but the keypad of the machine changes any more. What
happens to the window is made of nothing else. -/
theorem halt_is_reported_once (hbegins : s.Begins) :
    (∀ s', s.Lasts s' → ∃ m, s'.machine = some m ∧
      (s'.host.reports = s.host.reports ∨
        ∃ f, m.status.fault? = some f ∧
          s'.host.reports = ("Machine halted: " ++ f.message) :: s.host.reports)) ∧
    (∀ s₁, s.Lasts s₁ → ∀ clock, ∃ m m' taken, s₁.machine = some m ∧
      (m.runOn clock s.settings.cyclesPerFrame).machine = m' ∧
      (m.runOn clock s.settings.cyclesPerFrame).taken = .ok taken ∧
      (taken : Int) ≤ s.settings.cyclesPerFrame ∧ (m.isHalted → m' = m) ∧
      (s₁.stepFrameOn clock).machine = some m' ∧ (s₁.stepFrameOn clock).paused = m'.isHalted ∧
      ∀ s₂, (s₁.stepFrameOn clock).Lasts s₂ →
        (∀ f, m'.status.fault? = some f →
          s₂.host.reports = ("Machine halted: " ++ f.message) :: s.host.reports) ∧
        (m'.isHalted → s₂.paused = true ∧
          ∃ keypad, s₂.machine = some { m' with keypad := keypad })) ∧
    ∀ happenings, s.GoesOn (passes happenings s).2 := by
  obtain ⟨-, m₀, h₀⟩ := hbegins.reported
  refine ⟨fun s' hlasts => ?once, fun s₁ hlasts clock => ?frame, fun happenings =>
    goesOn_passes happenings s⟩
  case once =>
    obtain ⟨m, -, h, -⟩ := h₀.lasts hlasts
    exact ⟨m, h.machine, h.reports_cases⟩
  case frame =>
    obtain ⟨m, -, h₁, -⟩ := h₀.lasts hlasts
    obtain ⟨hframe, hpaused⟩ := h₁.frame clock
    rw [h₁.settings] at hframe hpaused
    obtain ⟨taken, hle, htaken⟩ := Machine.exists_taken h₁.wellFormed clock
      s.settings.cyclesPerFrame.toNat
    have hcycles := h₁.cycles
    refine ⟨m, _, taken, h₁.machine, rfl, htaken, by omega, fun hhalted => ?_, hframe.machine,
      hpaused, fun s₂ hlasts => ?_⟩
    · rw [(Machine.standsStill hhalted).run]
    -- what the frame leaves behind goes on from there
    generalize (m.runOn clock s.settings.cyclesPerFrame).machine = m' at hframe hpaused
    obtain ⟨m₂, hfollows, h₂, hstays⟩ := hframe.lasts hlasts
    have hlater (hhalted : m'.isHalted) :
        s₂.paused = true ∧ ∃ keypad, m₂ = { m' with keypad := keypad } :=
      ⟨hstays (hpaused.trans hhalted), hfollows.halted hhalted⟩
    refine ⟨fun f hf => ?_, fun hhalted => ?_⟩
    · obtain ⟨hpaused, keypad, rfl⟩ := hlater (Machine.isHalted_of_fault? hf)
      exact h₂.reports_of_paused hpaused hf
    · obtain ⟨hpaused, keypad, rfl⟩ := hlater hhalted
      exact ⟨hpaused, keypad, h₂.machine⟩

/-! ## A session to look at -/

/-- The file of a program. -/
def samplePath : Path := ⟨"", ["sample.ch8"]⟩

/-- A session before it starts, with a program in its file. -/
def stored (program : List UInt8) : Session :=
  let shown := sample 4 highSample
  { shown with
    settings := { shown.settings with romPath := some samplePath, seed := some 0 }
    running := false
    machine := none
    host := { shown.host with files := Files.empty.write samplePath program } }

/-- A session that was started with its program. -/
structure Started (program : List UInt8) (s : Session) : Prop where
  begins : s.Begins
  settings : s.settings = (stored program).settings
  reports : s.host.reports = []
  machine : ∃ m, s.machine = some m ∧ m.Starts program

theorem started_stored {program : List UInt8} (h : program.length ≤ programCapacity) :
    Started program (stored program).start.2 := by
  let s := stored program
  have hcreated : create s.settings s.host = .ok s := rfl
  obtain ⟨o, hon⟩ : ∃ o, Machine.create s.machineSetup s.host.now s.printsTrace = .ok o :=
    ⟨_, Machine.create_eq_ok_iff.2 ⟨show ¬ Timers.defaultRate ≤ 0 by decide, none, rfl, rfl⟩⟩
  have hread : (s.observe o.events).host.files.read samplePath = .ok program := by
    rw [observe, Host.observe, Host.printAll_eq]
    rfl
  have hmade : s.createMachine (some samplePath) =
      (.ok ((s.observe o.events).loaded o.value program),
        (s.observe o.events).told o.value samplePath program) := by
    simp only [createMachine, hon, loadRom_of_read hread h]
  have hstart : s.start.2 = { (s.observe o.events).told o.value samplePath program with
      machine := some ((s.observe o.events).loaded o.value program), running := true } := by
    rw [start, show s.settings.romPath = some samplePath from rfl, hmade]
  show Started program s.start.2
  rw [hstart]
  refine ⟨.made true hcreated hmade, rfl, ?_, _, rfl, Machine.starts_loadOn _ (.still _) h⟩
  exact (Host.reports_observe _).trans ((Host.reports_observe _).trans (Host.reports_observe _))

/-- A program that starts with a return: the first frame reports the fault, and the second one does
not report it again. -/
theorem halt_is_reported_once_of_return :
    let s := (stored [0x00, 0xEE]).start.2
    let s' := (s.stepFrameOn (.still 1)).stepFrameOn (.still 2)
    s.Begins ∧ s.host.reports = [] ∧ s'.paused = true ∧
      s'.host.reports = ["Machine halted: return with empty call stack at pc=0x200"] := by
  intro s s'
  obtain ⟨hbegins, hsettings, hnone, m, hm, hstarts⟩ :=
    started_stored (show [0x00, 0xEE].length ≤ programCapacity by decide)
  obtain ⟨-, hframes, -⟩ := halt_is_reported_once hbegins
  obtain ⟨n, m', taken, hn, hrun, -, -, -, -, -, hlater⟩ := hframes s .refl (.still 1)
  obtain rfl : m = n := Option.some.inj (hm.symm.trans hn)
  have hstatus : m'.status = .halted (.fault (.stackEmpty 0x200)) := by
    rw [← hrun]
    exact hstarts.status_runOn_of_return _ (by rw [hsettings]; decide)
  obtain ⟨hreports, hpaused⟩ := hlater s' (.single (.frame (.still 2)))
  refine ⟨hbegins, hnone, (hpaused (Machine.isHalted_of_status hstatus)).1, ?_⟩
  rw [hreports (.stackEmpty 0x200) (by rw [hstatus]; rfl), hnone]
  decide

end Session

end SuperChip
