import SuperChip.Proofs.Session.Picture
import SuperChip.Proofs.Session.Quiet

/-!
# What a session asks of its host

A session asks the host for an audio device and a window, then shows one picture after the other
and switches the tone with each of them, and at last ends the tone and closes the window system.

- `runOn_eq_ok_iff`: a session that ends normally was opened, showed its frames and was closed.
- `Session.frames`: the session after each of its frames.
- `Session.Opened`: what a session has asked for until then.
- `Session.Block`, `Session.Blocks`: the calls of a frame, and of all frames; `Shows.blocks`: **a
  session makes no others until it is closed**.
- `Session.InTune`: a session whose host plays the tone of its beeper; `Shows.heard`: **the tone of
  every frame is heard just if it is to be**.
- `run_follows_protocol`: **all the calls of a session in their order, and when the tone is heard**.

About `Chip8App.run`, `_init_audio` and `SquareWaveBeeper.set_active`.
-/

namespace SuperChip

namespace Session

variable {s s' : Session} {happenings : List Pass}

/-! ## The parts of a session -/

/-- The session after each of its frames, of which there is one for each pass while it runs. -/
def frames : (Nat → Pass.Clocks) → List Pass → Session → List Session
  | clocks, [], s => if s.running then [(s.passOn (clocks 0) closing).2] else []
  | clocks, p :: rest, s =>
    if s.running then
      let next := (s.passOn (clocks 0) p).2
      next :: frames (fun k => clocks (k + 1)) rest next
    else []

/-- **A session ends normally just if it was opened, showed its frames and was closed.** -/
theorem runOn_eq_ok_iff {clock : Clock} {clocks : Nat → Pass.Clocks} :
    s.runOn clock clocks happenings = (.ok (), s') ↔
      s.host.hasWindows = true ∧ ∃ path opened shown, s.settings.romPath = some path ∧
        s.opening clock path = (.ok (), opened) ∧
        passesOn clocks happenings opened = (.ok (), shown) ∧ s' = shown.close := by
  constructor
  · intro h
    unfold runOn at h
    split at h
    · cases h
    next hwindows =>
    split at h
    · cases h
    next path hpath =>
    split at h
    · cases h
    next opened hopened =>
    split at h
    · cases h
    next shown hshown =>
    exact ⟨by simpa using hwindows, path, opened, shown, hpath, hopened, hshown,
      (Prod.mk.inj h).2.symm⟩
  · rintro ⟨hwindows, path, opened, shown, hpath, hopened, hshown, rfl⟩
    rw [runOn, hwindows, hpath]
    dsimp only
    rw [hopened]
    dsimp only
    rw [hshown]
    rfl

/-! ## Opening -/

/-- The volume of the tone. -/
def toneVolume : Float := Beeper.clampVolume Beeper.defaultVolume

/-- The channel that the beeper of a session holds. -/
def held (s : Session) : Option Nat := s.beeper.bind (·.channel)

/-- The calls that prepare the sound of a session, if it has one. -/
def soundCalls (s : Session) : List Call := s.beeper.toList.map fun b => .sound b.samples

/-- A beeper that was just made: its tone is off, and it holds no channel. -/
structure FreshBeeper (b : Beeper) : Prop where
  volume : b.volume = toneVolume
  channel : b.channel = none
  active : b.active = false

/-- A session has got a beeper whose sound was prepared, or it has none. -/
structure Voiced (s s' : Session) : Prop where
  log : s'.host.log = s.host.log ++ s'.soundCalls
  freeChannels : s'.host.freeChannels = s.host.freeChannels
  settings : s'.settings = s.settings
  fresh : ∀ b, s'.beeper = some b → FreshBeeper b

theorem Quiet.voiced (hq : s.Quiet s') (hbeeper : s.beeper = none) : s.Voiced s' := by
  have hnone : s'.beeper = none := hq.beeper.trans hbeeper
  refine ⟨?_, hq.host.freeChannels, hq.settings, by simp [hnone]⟩
  rw [hq.host.log, soundCalls, hnone]
  simp

/-- A session looks for an audio device: it has a beeper then, or it has none. -/
theorem voiced_of_initAudio (hbeeper : s.beeper = none) (h : s.initAudio = (.ok (), s')) :
    s.Voiced s' := by
  -- the device is looked at twice here, and once more by the beeper
  unfold initAudio at h
  cases hfound : s.host.sampleRate with
  | mk found asked =>
    have hq := Host.quiet_sampleRate hfound
    simp only [hfound] at h
    split at h
    · cases h
      have hasked : s.Quiet { s with host := asked } := ⟨rfl, rfl, hq⟩
      exact (hasked.trans (quiet_observe _ _)).voiced hbeeper
    cases hagain : asked.sampleRate with
    | mk rate again =>
      have hq' := hq.trans (Host.quiet_sampleRate hagain)
      simp only [hagain] at h
      split at h
      · cases h
      next rate =>
      cases hmade : Beeper.create ⟨Beeper.defaultFrequency, rate, Beeper.defaultVolume⟩ again with
      | mk made host =>
        simp only [hmade] at h
        obtain ⟨samples, rfl, hlog, hchannels⟩ | ⟨e, rfl, hquiet⟩ := Beeper.of_create hmade
        · cases h
          refine ⟨by rw [hlog, hq'.log]; rfl, hchannels.trans hq'.freeChannels, rfl, ?_⟩
          intro b hb
          cases hb
          exact ⟨by rw [toneVolume], rfl, rfl⟩
        · simp only at h
          split at h
          · cases h
            have hasked : s.Quiet { s with host := host } := ⟨rfl, rfl, hq'.trans hquiet⟩
            exact (hasked.trans (quiet_observe _ _)).voiced hbeeper
          · cases h

/-- The calls up to the open window. -/
def openingCalls (s : Session) (path : Path) : List Call :=
  [.openMixer 44100 (-16) 1 512, .start, .caption ("CHIP-8 - " ++ path.name)] ++ s.soundCalls ++
    [.openWindow s.windowSize.1 s.windowSize.2 s.settings.fullscreen]

/-- A session that was opened. -/
structure Opened (s : Session) (path : Path) (opened : Session) : Prop where
  log : opened.host.log = s.host.log ++ opened.openingCalls path
  freeChannels : opened.host.freeChannels = s.host.freeChannels
  settings : opened.settings = s.settings
  running : opened.running = true
  fresh : ∀ b, opened.beeper = some b → FreshBeeper b

/-- A session that opens its window has asked for an audio device and then for the window. -/
theorem opened_of_opening {clock : Clock} {path : Path} (hbeeper : s.beeper = none)
    (h : s.opening clock path = (.ok (), s')) : s.Opened path s' := by
  unfold opening at h
  cases hcreated : s.createMachineOn clock (some path) with
  | mk created s₁ =>
    have hq := s.quiet_createMachineOn clock (some path)
    rw [hcreated] at h hq
    cases created with
    | error e => cases h
    | ok m =>
      dsimp only at h
      split at h
      · cases h
      next voiced hvoiced =>
      have hv := voiced_of_initAudio (by exact hq.beeper.trans hbeeper) hvoiced
      cases h
      refine ⟨?_, hv.freeChannels.trans hq.host.freeChannels, hv.settings.trans hq.settings, rfl,
        hv.fresh⟩
      show voiced.openWindow.host.log = s.host.log ++ voiced.openingCalls path
      refine (Host.log_call _).trans ?_
      rw [hv.log, ← hq.host.log, openingCalls]
      simp [call, Host.log_call]

/-! ## Frames -/

/-- Whether the tone of a machine is to be heard. -/
def Sounds (m : Machine) : Bool := m.soundActive && !m.isHalted

/-- The calls of a frame: its picture, the tone and a pause. -/
inductive Block (held : Option Nat) (s : Session) : List Call → Prop
  | mk {m : Machine} {picture : Frame} {tone : List Call} (hm : s.machine = some m)
      (hpicture : s.picture s.windowSize.1 = .ok picture)
      (htone : Switching toneVolume (Sounds m) held tone s.held) :
    Block held s ([.blit picture, .flip] ++ tone ++ [.tick frameRate])

/-- The calls of frames, one block for each. The channel held goes with them. -/
inductive Blocks : Option Nat → List Session → List (List Call) → Option Nat → Prop
  | none (held : Option Nat) : Blocks held [] [] held
  | frame {held last : Option Nat} {s : Session} {block : List Call} {frames : List Session}
      {blocks : List (List Call)} (hblock : Block held s block)
      (hrest : Blocks s.held frames blocks last) :
    Blocks held (s :: frames) (block :: blocks) last

/-- There is a picture only of a machine. -/
theorem exists_machine_of_picture {width : Int} {picture : Frame}
    (h : s.picture width = .ok picture) : ∃ m, s.machine = some m := by
  unfold Session.picture at h
  cases hm : s.machine with
  | none =>
    rw [hm] at h
    cases h
  | some m => exact ⟨m, rfl⟩

/-- A frame takes in what happened without a call, and then shows its picture and switches the
tone. -/
theorem of_passOn {clocks : Pass.Clocks} {p : Pass} (h : s.passOn clocks p = (.ok (), s')) :
    ∃ shown m picture, s.Quiet shown ∧ shown.machine = some m ∧
      shown.picture shown.windowSize.1 = .ok picture ∧
      s' = ((shown.call (.blit picture)).call .flip).updateTone.call (.tick frameRate) := by
  unfold passOn at h
  split at h
  · cases h
  next handled hhandled =>
  have hq : s.Quiet handled := by
    have hawaited : s.Quiet { s with host := s.host.await p } := ⟨rfl, rfl, Host.quiet_await p⟩
    have hevents := quiet_handleAllOn p.events clocks.event { s with host := s.host.await p }
    rw [hhandled] at hevents
    exact hawaited.trans hevents
  have hstepped : handled.Quiet
      (if handled.paused then handled else handled.stepFrameOn clocks.frame) := by
    split
    · exact .refl handled
    · exact quiet_stepTimesOn _ _ _
  dsimp only at h
  generalize (if handled.paused then handled else handled.stepFrameOn clocks.frame) = shown
    at h hstepped
  unfold draw at h
  cases hpicture : shown.picture shown.windowSize.1 with
  | error e =>
    rw [hpicture] at h
    cases h
  | ok picture =>
    obtain ⟨m, hm⟩ := exists_machine_of_picture hpicture
    rw [hpicture] at h
    exact ⟨shown, m, picture, hq.trans hstepped, hm, hpicture, (Prod.mk.inj h).2.symm⟩

/-! ## The tone of a frame -/

/-- The beeper of a session has the volume of the tone. -/
def HasTone (s : Session) : Prop := ∀ b, s.beeper = some b → b.volume = toneVolume

/-- A session whose host plays the tone of its beeper. -/
def InTune (s : Session) : Prop := ∃ b, s.beeper = some b ∧ b.InTune s.host

/-- What switching the tone makes of a session. -/
structure Switched (m : Machine) (s s' : Session) (tone : List Call) : Prop where
  switching : s.HasTone → Switching toneVolume (Sounds m) s.held tone s'.held
  log : s'.host.log = s.host.log ++ tone
  settings : s'.settings = s.settings
  palette : s'.palette = s.palette
  room : s'.host.room = s.host.room
  machine : s'.machine = s.machine
  hasTone : s.HasTone → s'.HasTone
  inTune : s.InTune → s'.InTune
  active : ∀ b, s'.beeper = some b → b.active = Sounds m

theorem switched_updateTone {m : Machine} (hm : s.machine = some m) :
    ∃ tone, s.Switched m s.updateTone tone := by
  cases hbeeper : s.beeper with
  | none =>
    have hsame : s.updateTone = s := by
      unfold updateTone
      rw [hbeeper]
    rw [hsame]
    exact ⟨[], fun _ => .stays _ _, by simp, rfl, rfl, rfl, rfl, id, id, by simp [hbeeper]⟩
  | some b =>
    have hspec := b.switchSpec (Sounds m) s.host
    have hupdated : s.updateTone =
        { s with
          beeper := some (b.setActive (Sounds m) s.host).1
          host := (b.setActive (Sounds m) s.host).2 } := by
      unfold updateTone
      rw [hbeeper, hm]
      rfl
    rw [hupdated]
    obtain ⟨tone, htone, hlog⟩ := hspec.switching
    refine ⟨tone, fun hv => ?_, hlog, rfl, rfl, b.room_setActive _ _, rfl, fun hv b' hb' => ?_, ?_,
      fun b' hb' => ?_⟩
    · rw [hv b hbeeper] at htone
      rwa [held, hbeeper]
    · cases hb'
      rw [hspec.volume_eq]
      exact hv b hbeeper
    · rintro ⟨b', hb', htune⟩
      cases hbeeper.symm.trans hb'
      exact ⟨_, rfl, hspec.inTune htune⟩
    · cases hb'
      exact hspec.active_eq

/-! ## All frames -/

theorem InTune.quiet (ht : s.InTune) (hq : s.Quiet s') : s'.InTune := by
  obtain ⟨b, hb, htune⟩ := ht
  exact ⟨b, hq.beeper.trans hb, htune.quiet hq.host⟩

theorem InTune.call (ht : s.InTune) {c : Call} (hc : c.isHeard = false) : (s.call c).InTune := by
  obtain ⟨b, hb, htune⟩ := ht
  exact ⟨b, hb, htune.call hc⟩

/-- The tone is heard just if the machine sounds and is not halted. -/
def Heard (s : Session) : Prop :=
  ∃ m, s.machine = some m ∧
    ((∃ c, s.host.plays c = true) ↔ m.soundActive = true ∧ m.isHalted = false)

/-- What a frame leaves behind, and what it asks for. -/
structure Framed (s s' : Session) (block : List Call) : Prop where
  isBlock : Block s.held s' block
  log : s'.host.log = s.host.log ++ block
  hasTone : s'.HasTone
  inTune : s.InTune → s'.InTune
  heard : s.InTune → s'.Heard

/-- **A frame asks for its picture, the tone and a pause.** -/
theorem framed_of_passOn {clocks : Pass.Clocks} {p : Pass} (hv : s.HasTone)
    (h : s.passOn clocks p = (.ok (), s')) : ∃ block, s.Framed s' block := by
  obtain ⟨shown, m, picture, hq, hm, hpicture, rfl⟩ := of_passOn h
  obtain ⟨tone, hs⟩ := switched_updateTone (s := (shown.call (.blit picture)).call .flip) hm
  generalize ((shown.call (.blit picture)).call .flip).updateTone = last at hs ⊢
  have hvshown : shown.HasTone := fun b hb => hv b (hq.beeper.symm.trans hb)
  have htuned (ht : s.InTune) : (last.call (.tick frameRate)).InTune :=
    (hs.inTune (((ht.quiet hq).call rfl).call rfl)).call rfl
  refine ⟨[.blit picture, .flip] ++ tone ++ [.tick frameRate], ?_, ?_, ?_, htuned, ?_⟩
  · have htone := hs.switching hvshown
    have hheld : shown.held = s.held := congrArg (·.bind (·.channel)) hq.beeper
    rw [show ((shown.call (.blit picture)).call .flip).held = s.held from hheld] at htone
    refine .mk (hs.machine.trans hm) ?_ htone
    -- the tone does not change what is shown
    show last.picture last.windowSize.1 = _
    rw [Session.picture, windowSize, hs.machine, hs.palette, hs.settings, hs.room]
    exact hpicture
  · refine (Host.log_call _).trans ?_
    rw [hs.log]
    simp [Session.call, Host.log_call, hq.host.log]
  · exact hs.hasTone hvshown
  · intro ht
    obtain ⟨b, hb, htune⟩ := htuned ht
    refine ⟨m, hs.machine.trans hm, htune.exists_plays_iff.trans ?_⟩
    rw [hs.active b hb]
    simp [Sounds]

/-- Frames lead from one session to another. -/
inductive Shows : Session → List Session → Session → Prop
  | done (s : Session) : Shows s [] s
  | frame {s s₁ s' : Session} {clocks : Pass.Clocks} {p : Pass} {frames : List Session}
      (hpass : s.passOn clocks p = (.ok (), s₁)) (hrest : Shows s₁ frames s') :
    Shows s (s₁ :: frames) s'

/-- Frames show pictures, one after the other. -/
theorem shows_of_passesOn {clocks : Nat → Pass.Clocks}
    (h : passesOn clocks happenings s = (.ok (), s')) :
    Shows s (frames clocks happenings s) s' := by
  induction happenings generalizing s clocks with
  | nil =>
    unfold passesOn at h
    unfold frames
    split at h
    next hrun =>
      rw [if_pos hrun, h]
      exact .frame h (.done s')
    next hrun =>
      cases h
      rw [if_neg hrun]
      exact .done _
  | cons p rest ih =>
    unfold passesOn at h
    unfold frames
    split at h
    next hrun =>
      rw [if_pos hrun]
      split at h
      · cases h
      next s₁ hpass =>
      rw [hpass]
      exact .frame hpass (ih h)
    next hrun =>
      cases h
      rw [if_neg hrun]
      exact .done _

/-- **A session makes no other calls until it is closed.** -/
theorem Shows.blocks {shown : List Session} (h : Shows s shown s') (hv : s.HasTone) :
    ∃ blocks, Blocks s.held shown blocks s'.held ∧ s'.host.log = s.host.log ++ blocks.flatten := by
  induction h with
  | done s => exact ⟨[], .none _, by simp⟩
  | frame hpass hrest ih =>
    obtain ⟨block, hframed⟩ := framed_of_passOn hv hpass
    obtain ⟨blocks, hblocks, hlog⟩ := ih hframed.hasTone
    refine ⟨block :: blocks, .frame hframed.isBlock hblocks, ?_⟩
    rw [hlog, hframed.log, List.flatten_cons, List.append_assoc]

/-- **The tone of every frame is heard just if it is to be.** -/
theorem Shows.heard {shown : List Session} (h : Shows s shown s') (hv : s.HasTone)
    (ht : s.InTune) : s'.InTune ∧ ∀ f ∈ shown, f.Heard := by
  induction h with
  | done s => exact ⟨ht, by simp⟩
  | frame hpass hrest ih =>
    obtain ⟨block, hframed⟩ := framed_of_passOn hv hpass
    obtain ⟨hlast, hheard⟩ := ih hframed.hasTone (hframed.inTune ht)
    exact ⟨hlast, List.forall_mem_cons.2 ⟨hframed.heard ht, hheard⟩⟩

/-! ## Closing -/

/-- A session that is closed ends its tone, if there is one. -/
theorem log_close (s : Session) :
    ∃ ending, (ending = [] ∨ ∃ c, s.held = some c ∧ ending = [.stop c]) ∧
      s.close.host.log = s.host.log ++ ending ++ [.quit] := by
  unfold close
  cases hbeeper : s.beeper with
  | none => exact ⟨[], .inl rfl, by simp [call, Host.log_call]⟩
  | some b =>
    obtain ⟨ending, hending, hlog⟩ := (b.switchSpec false s.host).switching
    refine ⟨ending, ?_, ?_⟩
    · rw [held, hbeeper]
      exact hending.ending
    · refine (Host.log_call _).trans ?_
      rw [← hlog]
      rfl

/-- A session that is closed plays nothing. -/
theorem plays_close (ht : s.InTune) (c : Nat) : s.close.host.plays c = false := by
  obtain ⟨b, hb, htune⟩ := ht
  have hspec := b.switchSpec false s.host
  unfold close
  rw [hb]
  exact (hspec.inTune htune).silent hspec.active_eq c

/-! ## The whole session -/

theorem Opened.inTune {path : Path} {opened : Session} (ho : s.Opened path opened)
    (hbeeper : opened.beeper.isSome) (hsilent : ∀ c, s.host.plays c = false)
    (hfree : s.host.freeChannels.Always true) : opened.InTune := by
  obtain ⟨b, hb⟩ := Option.isSome_iff_exists.1 hbeeper
  obtain ⟨-, -, hoff⟩ := ho.fresh b hb
  have hunheard : ∀ c ∈ opened.openingCalls path, c.isHeard = false := by
    intro c hc
    simp only [openingCalls, soundCalls, hb, Option.toList_some, List.map_cons, List.map_nil,
      List.cons_append, List.nil_append, List.mem_cons, List.not_mem_nil, or_false] at hc
    obtain rfl | rfl | rfl | rfl | rfl := hc <;> rfl
  refine ⟨b, hb, ho.freeChannels ▸ hfree, by simp [hoff], fun c => ?_⟩
  rw [Host.plays_of_log_eq ho.log hunheard, hsilent, hoff]
  simp

theorem of_create {settings : Settings} {host : Host} (h : create settings host = .ok s) :
    s.settings = settings ∧ s.host = host ∧ s.beeper = none := by
  unfold create at h
  split at h
  · cases h
  split at h
  · cases h
  cases hpalette : Palette.ofColours? settings.palette with
  | error e =>
    rw [hpalette] at h
    cases h
  | ok palette =>
    rw [hpalette] at h
    cases h
    exact ⟨rfl, rfl, rfl⟩

/-! ## A session to listen to -/

/-- A session with an audio device that runs a program which sets the sound timer. -/
def audible : Session :=
  let silent := sample 1 (Machine.sample [])
  { silent with
    settings := { silent.settings with romPath := some ⟨"", ["tone"]⟩ }
    running := false
    machine := none
    host :=
      { silent.host with
        sampleRates := ⟨some 880, []⟩
        files := ⟨[(["tone"], .file [0x60, 0x05, 0xF0, 0x18])]⟩ } }

/-- The steps of a frame keep the invariant of the machine. -/
theorem wellFormed_stepTimesOn {m : Machine} (limit : Nat) (clock : Clock)
    (hm : s.machine = some m) (hwf : m.WellFormed) :
    ∃ m', (stepTimesOn limit clock s).machine = some m' ∧ m'.WellFormed := by
  -- after each step the session, the machine and the clock are others
  induction limit generalizing s m clock with
  | zero => exact ⟨m, hm, hwf⟩
  | succ limit ih =>
    have hnext : (m.stepOn clock).machine.WellFormed := hwf.stepAt _ _
    unfold stepTimesOn
    rw [hm]
    dsimp only
    split
    · exact ⟨_, rfl, hnext⟩
    split
    · refine ⟨_, ?_, hnext⟩
      unfold noteHalt
      split
      · split <;> rfl
      · rfl
    · exact ih _ rfl hnext

/-- At the scale one there is room for the picture of any machine. -/
theorem hasRoom_of_scale_one {m : Machine} (hwf : m.WellFormed) (hscale : s.settings.scale = 1) :
    s.HasRoom m.core.screen := by
  have hleast := s.host.room.least
  have hone : s.shownScale m.core.screen = 1 := by
    obtain ⟨hwidth, -⟩ | ⟨hwidth, -⟩ := hwf.core.screen
    · rw [shownScale_of_low (by omega) hwidth, hscale]
    · rw [shownScale_of_high hwidth, hscale]
      rfl
  rw [HasRoom, hone, Extent.reference]
  obtain ⟨hwidth, hheight⟩ | ⟨hwidth, hheight⟩ := hwf.core.screen <;> rw [hwidth, hheight] <;> omega

/-- A session that closes its window shows a last picture, for which there is room at the scale
one. -/
theorem exists_passOn_closing {m : Machine} (hm : s.machine = some m) (hwf : m.WellFormed)
    (hscale : s.settings.scale = 1) (clocks : Pass.Clocks) :
    ∃ s', s.passOn clocks closing = (.ok (), s') := by
  let stopped : Session := { s with running := false }
  have hevents : handleAllOn clocks.event closing.events { s with host := s.host.await closing } =
      (.ok (), stopped) := rfl
  have hkept : ∃ shown, (if stopped.paused then stopped else stopped.stepFrameOn clocks.frame) =
      shown ∧ shown.settings = s.settings ∧ ∃ m, shown.machine = some m ∧ m.WellFormed := by
    refine ⟨_, rfl, ?_, ?_⟩
    · split
      · rfl
      · exact (quiet_stepTimesOn _ _ stopped).settings
    · split
      · exact ⟨m, hm, hwf⟩
      · exact wellFormed_stepTimesOn _ _ hm hwf
  obtain ⟨shown, hshown, hsettings, m', hmachine, hwf'⟩ := hkept
  have hroom := hasRoom_of_scale_one hwf' (hsettings ▸ hscale)
  unfold passOn
  rw [hevents]
  dsimp only
  rw [hshown, draw, picture_eq_ok hmachine hroom]
  exact ⟨_, rfl⟩

/-! ## All calls -/

/-- **All the calls of a session that ends normally, in their order**, on whatever clocks. -/
theorem run_follows_protocol {settings : Settings} {host : Host} {clock : Clock}
    {clocks : Nat → Pass.Clocks} (hcreate : create settings host = .ok s)
    (hrun : s.runOn clock clocks happenings = (.ok (), s')) :
    ∃ path opened, settings.romPath = some path ∧ s.opening clock path = (.ok (), opened) ∧
      (∃ blocks held ending, Blocks none (opened.frames clocks happenings) blocks held ∧
        (ending = [] ∨ ∃ c, held = some c ∧ ending = [.stop c]) ∧
        s'.host.log = host.log ++
          [.openMixer 44100 (-16) 1 512, .start, .caption ("CHIP-8 - " ++ path.name)] ++
          opened.soundCalls ++
          [.openWindow (64 * settings.scale) (32 * settings.scale) settings.fullscreen] ++
          blocks.flatten ++ ending ++ [.quit]) ∧
      (opened.beeper.isSome → (∀ c, host.plays c = false) → host.freeChannels.Always true →
        (∀ f ∈ opened.frames clocks happenings, f.Heard) ∧ ∀ c, s'.host.plays c = false) := by
  obtain ⟨rfl, rfl, hnone⟩ := of_create hcreate
  obtain ⟨-, path, opened, shown, hpath, hopened, hpasses, rfl⟩ := runOn_eq_ok_iff.1 hrun
  have ho := opened_of_opening hnone hopened
  have hv : opened.HasTone := fun b hb => (ho.fresh b hb).volume
  have hheld : opened.held = none := by
    rw [held, Option.bind_eq_none_iff]
    exact fun b hb => (ho.fresh b hb).channel
  have hshows := shows_of_passesOn hpasses
  refine ⟨path, opened, hpath, hopened, ?_, fun hbeeper hsilent hfree => ?_⟩
  · obtain ⟨blocks, hblocks, hlog⟩ := hshows.blocks hv
    obtain ⟨ending, hending, hclosed⟩ := shown.log_close
    refine ⟨blocks, shown.held, ending, hheld ▸ hblocks, hending, ?_⟩
    rw [hclosed, hlog, ho.log, openingCalls, windowSize, ho.settings]
    simp only [List.append_assoc]
  · obtain ⟨hlast, hheard⟩ := hshows.heard hv (ho.inTune hbeeper hsilent hfree)
    exact ⟨hheard, plays_close hlast⟩

/-- A session with a tone whose window is closed at once plays nothing in the end. -/
theorem run_follows_protocol_of_audible :
    create audible.settings audible.host = .ok audible ∧
      ∃ s' opened, audible.runOn Float.ofNat (fun _ => ⟨fun _ => Float.ofNat, Float.ofNat⟩) [] =
          (.ok (), s') ∧
        audible.opening Float.ofNat ⟨"", ["tone"]⟩ = (.ok (), opened) ∧ opened.beeper.isSome ∧
        (∃ f, opened.frames (fun _ => ⟨fun _ => Float.ofNat, Float.ofNat⟩) [] = [f] ∧ f.Heard) ∧
        ∀ c, s'.host.plays c = false := by
  have hcreate : create audible.settings audible.host = .ok audible := rfl
  let made : Machine :=
    ((Machine.ofSetup audible.machineSetup 0 none).resetOn (Clock.later Float.ofNat)).value
  let loaded := (made.loadOn (Clock.skip Float.ofNat 4) [0x60, 0x05, 0xF0, 0x18]).value.1
  have hwf : loaded.WellFormed := Machine.WellFormed.install _ _
  obtain ⟨opened, hopened, hbeeper, hm⟩ : ∃ opened,
      audible.opening Float.ofNat ⟨"", ["tone"]⟩ = (.ok (), opened) ∧ opened.beeper.isSome ∧
        opened.machine = some loaded := ⟨_, rfl, rfl, rfl⟩
  have ho := opened_of_opening rfl hopened
  obtain ⟨shown, hpass⟩ := exists_passOn_closing hm hwf (by rw [ho.settings]; rfl)
    ⟨fun _ => Float.ofNat, Float.ofNat⟩
  have hpasses : passesOn (fun _ => ⟨fun _ => Float.ofNat, Float.ofNat⟩) [] opened =
      (.ok (), shown) := by
    rw [passesOn, if_pos ho.running, hpass]
  have hframes : opened.frames (fun _ => ⟨fun _ => Float.ofNat, Float.ofNat⟩) [] = [shown] := by
    rw [frames, if_pos ho.running, hpass]
  have hrun : audible.runOn Float.ofNat (fun _ => ⟨fun _ => Float.ofNat, Float.ofNat⟩) [] =
      (.ok (), shown.close) :=
    runOn_eq_ok_iff.2 ⟨rfl, _, opened, shown, rfl, hopened, hpasses, rfl⟩
  obtain ⟨path, opened', hpath, hopened', -, hheard⟩ := run_follows_protocol hcreate hrun
  cases hpath
  cases hopened.symm.trans hopened'
  obtain ⟨hframe, hsilent⟩ := hheard hbeeper (fun _ => rfl) ⟨rfl, by simp [audible, sample]⟩
  refine ⟨hcreate, _, opened, hrun, hopened, hbeeper, ⟨shown, hframes, ?_⟩, hsilent⟩
  exact hframe shown (by simp [hframes])

end Session

end SuperChip
