import SuperChip.Session.Clock
import SuperChip.Session.Run

/-!
# Running a session on clocks that move

Each event of the window and the frame itself find a clock that may move meanwhile, as does the
beginning of a session.

- `Pass.Clocks`: the clocks of a pass.
- `Session.passOn`, `runOn`: one frame, and a whole session.
- `exists_runOn_eq`: a session whose clock stands still between its passes is one of these.
-/

namespace SuperChip

/-- The clocks of a pass, as each event of the window and then the frame find them. -/
structure Pass.Clocks where
  event : Nat → Clock
  frame : Clock

namespace Session

variable (s : Session)

/-! ## Frames -/

/-- What an event of the window does. -/
def handleOn (clock : Clock) : WindowEvent → Except SessionError Unit × Session
  | .keyDown name =>
    if name = "escape" then (.ok (), s.shellOn clock)
    else if name = "f5" then s.reloadOn clock
    else (.ok (), s.key name true)
  | e => s.handle e

/-- What events of the window do, in order and up to the first error. -/
def handleAllOn : (Nat → Clock) → List WindowEvent → Session → Except SessionError Unit × Session
  | _, [], s => (.ok (), s)
  | clocks, e :: rest, s =>
    match s.handleOn (clocks 0) e with
    | (.error err, s) => (.error err, s)
    | (.ok (), s) => handleAllOn (fun k => clocks (k + 1)) rest s

/-- One frame: what happened before it, the instructions, the picture and the tone. -/
def passOn (clocks : Pass.Clocks) (p : Pass) : Except SessionError Unit × Session :=
  match handleAllOn clocks.event p.events { s with host := s.host.await p } with
  | (.error e, s) => (.error e, s)
  | (.ok (), s) =>
    let s := if s.paused then s else s.stepFrameOn clocks.frame
    match s.draw with
    | (.error e, s) => (.error e, s)
    | (.ok (), s) => (.ok (), s.updateTone.call (.tick frameRate))

/-- Frames until the session ends. After the last pass that is known the window is closed. -/
def passesOn : (Nat → Pass.Clocks) → List Pass → Session → Except SessionError Unit × Session
  | clocks, [], s => if s.running then s.passOn (clocks 0) closing else (.ok (), s)
  | clocks, p :: rest, s =>
    if s.running then
      match s.passOn (clocks 0) p with
      | (.error e, s) => (.error e, s)
      | (.ok (), s) => passesOn (fun k => clocks (k + 1)) rest s
    else (.ok (), s)

/-! ## The whole session -/

/-- A session up to its open window. -/
def opening (clock : Clock) (path : Path) : Except SessionError Unit × Session :=
  match s.createMachineOn clock (some path) with
  | (.error e, s) => (.error e, s)
  | (.ok m, s) =>
    let s := { s with machine := some m }
    let s := ((s.call (.openMixer 44100 (-16) 1 512)).call .start).call
      (.caption ("CHIP-8 - " ++ path.name))
    match s.initAudio with
    | (.error e, s) => (.error e, s)
    | (.ok (), s) => (.ok (), { s.openWindow with running := true })

/-- Runs a session, given what happens to the window. -/
def runOn (clock : Clock) (clocks : Nat → Pass.Clocks) (happenings : List Pass) :
    Except SessionError Unit × Session :=
  if !s.host.hasWindows then (.error .noWindows, s)
  else match s.settings.romPath with
    | none => (.error .noRom, s)
    | some path =>
      match s.opening clock path with
      | (.error e, s) => (.error e, s)
      | (.ok (), s) =>
        match passesOn clocks happenings s with
        | (.error e, s) => (.error e, s)
        | (.ok (), s) => (.ok (), s.close)

/-! ## Clocks that stand still -/

/-- A sequence with one more thing in front of it. -/
def precede {α : Type} (first : α) (rest : Nat → α) : Nat → α
  | 0 => first
  | k + 1 => rest k

/-- On a clock that stands still an event is handled as usual. -/
theorem handleOn_still (e : WindowEvent) : s.handleOn (.still s.host.now) e = s.handle e := by
  cases e with
  | keyDown name => simp only [handleOn, handle, shellOn_still, reloadOn_still]
  | _ => rfl

/-- Events leave the clock alone, but each of them may find another one. -/
theorem exists_handleAllOn_eq (events : List WindowEvent) :
    ∃ clocks, handleAllOn clocks events s = s.handleAll events := by
  induction events generalizing s with
  | nil => exact ⟨fun _ => .still 0, rfl⟩
  | cons e rest ih =>
    cases hhandled : s.handle e with
    | mk result s' =>
      obtain ⟨clocks, hrest⟩ := ih s'
      refine ⟨precede (.still s.host.now) clocks, ?_⟩
      have hfirst : s.handleOn (precede (.still s.host.now) clocks 0) e = (result, s') :=
        (s.handleOn_still e).trans hhandled
      unfold handleAllOn handleAll
      rw [hfirst, hhandled]
      cases result with
      | error err => rfl
      | ok u => exact hrest

theorem exists_passOn_eq (p : Pass) : ∃ clocks, s.passOn clocks p = s.pass p := by
  obtain ⟨clocks, hevents⟩ := exists_handleAllOn_eq { s with host := s.host.await p } p.events
  cases hhandled : handleAll p.events { s with host := s.host.await p } with
  | mk result s' =>
    refine ⟨⟨clocks, .still s'.host.now⟩, ?_⟩
    unfold passOn pass
    rw [hevents, hhandled]
    cases result with
    | error e => rfl
    | ok u =>
      dsimp only
      exact s'.stepFrameOn_still ▸ rfl

theorem exists_passesOn_eq (happenings : List Pass) :
    ∃ clocks, passesOn clocks happenings s = passes happenings s := by
  induction happenings generalizing s with
  | nil =>
    obtain ⟨clocks, hpass⟩ := s.exists_passOn_eq closing
    refine ⟨fun _ => clocks, ?_⟩
    unfold passesOn passes
    rw [hpass]
  | cons p rest ih =>
    obtain ⟨clocks, hpass⟩ := s.exists_passOn_eq p
    cases hshown : s.pass p with
    | mk result s' =>
      obtain ⟨later, hrest⟩ := ih s'
      refine ⟨precede clocks later, ?_⟩
      have hfirst : s.passOn (precede clocks later 0) p = (result, s') := hpass.trans hshown
      have hlater :
          passesOn (fun k => precede clocks later (k + 1)) rest s' = passes rest s' := hrest
      unfold passesOn passes
      rw [hfirst, hshown]
      cases result with
      | error e => rfl
      | ok u => simp only [hlater]

/-- Once its window is open a session shows frames, and then it is closed. -/
theorem runWith_eq (path : Path) (happenings : List Pass) :
    s.runWith path happenings =
      match s.opening (.still s.host.now) path with
      | (.error e, s) => (.error e, s)
      | (.ok (), s) =>
        match passes happenings s with
        | (.error e, s) => (.error e, s)
        | (.ok (), s) => (.ok (), s.close) := by
  unfold runWith opening
  rw [createMachineOn_still]
  cases s.createMachine (some path) with
  | mk created s₁ =>
    cases created with
    | error e => rfl
    | ok m =>
      dsimp only
      cases initAudio _ with
      | mk audio s₂ => cases audio <;> rfl

/-- A session whose clock stands still between its passes runs like any other. -/
theorem exists_runOn_eq (happenings : List Pass) :
    ∃ clock clocks, s.runOn clock clocks happenings = s.run happenings := by
  unfold run runOn
  cases s.settings.romPath with
  | none => exact ⟨.still 0, fun _ => ⟨fun _ => .still 0, .still 0⟩, rfl⟩
  | some path =>
    dsimp only
    rw [runWith_eq]
    cases hopened : s.opening (.still s.host.now) path with
    | mk result opened =>
      obtain ⟨clocks, hpasses⟩ := opened.exists_passesOn_eq happenings
      refine ⟨.still s.host.now, clocks, ?_⟩
      rw [hopened]
      cases result with
      | error e => rfl
      | ok u =>
        dsimp only
        rw [hpasses]

end Session

end SuperChip
