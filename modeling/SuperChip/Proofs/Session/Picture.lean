import SuperChip.Proofs.Frame.Rendering
import SuperChip.Proofs.Machine.Moment
import SuperChip.Session.Run

/-!
# Pictures in windows

A session opens a window for the low resolution at its scale, and in every frame puts a picture of
the screen into the upper left corner of it. Nothing else is ever put there, so that what a picture
does not cover keeps showing an older one.

- `Frame.width_ofScreen`, `height_ofScreen`, `size_pixels_ofScreen`: the size of a frame.
- `Session.shownScale`: the scale at which a session shows a screen; `shownScale_of_low` and
  `shownScale_of_high` are the two resolutions.
- `Session.picture_eq_ok`: the picture, as long as there is room for it.
- `Session.picture_fills_window_iff`: **the pictures of the low resolution fill the window at every
  scale, those of the high resolution at the even scales only**.

About `Chip8App._render_frame`.
-/

namespace SuperChip

namespace Frame

variable (p : Palette) (s : Screen) (scale : Nat)

/-- The columns and the rows of a frame. -/
def extent (f : Frame) : Int × Int := (f.width, f.height)

theorem length_of_mem_numbers {row : List Int} (h : row ∈ numbers s) : row.length = s.width := by
  unfold numbers Screen.rows at h
  rw [List.map_map] at h
  obtain ⟨y, -, rfl⟩ := List.mem_map.1 h
  simp

/-- A screen has as many rows of numbers as rows. -/
theorem length_numbers : (numbers s).length = s.height := by simp [numbers, Screen.rows]

/-- The grid of a screen has a number for every pixel. -/
theorem rectangular_numbers : Rectangular (numbers s) s.width where
  length_eq _ := length_of_mem_numbers s
  eq_zero h := by
    have hlength := length_numbers s
    rw [h] at hlength
    exact absurd hlength (Nat.ne_of_lt s.height_pos)

theorem width_ofScreen : (ofScreen p s scale).width = s.width * scale :=
  width_ofRows (rectangular_numbers s)

theorem height_ofScreen : (ofScreen p s scale).height = s.height * scale := by
  show (numbers s).length * scale = s.height * scale
  rw [length_numbers]

/-- A frame has the size of its screen at the scale. -/
theorem extent_ofScreen {scale : Int} (h : 0 ≤ scale) :
    (ofScreen p s scale.toNat).extent = (s.width * scale, s.height * scale) := by
  rw [extent, width_ofScreen, height_ofScreen, Int.natCast_mul, Int.natCast_mul,
    Int.toNat_of_nonneg h]

/-- A frame has a colour for every pixel of it. -/
theorem size_pixels_ofScreen :
    (ofScreen p s scale).pixels.size =
      (ofScreen p s scale).width * (ofScreen p s scale).height := by
  rw [width_ofScreen, height_ofScreen, ← length_numbers s]
  exact size_pixels (rectangular_numbers s)

end Frame

namespace Session

variable (s : Session)

/-- The scale at which a session shows a screen in its window. -/
def shownScale (screen : Screen) : Int := Frame.fittingScale screen s.windowSize.1

variable {s} {screen : Screen}

/-- The low resolution is shown at the scale of the settings. -/
theorem shownScale_of_low (hscale : 0 < s.settings.scale) (h : screen.width = 64) :
    s.shownScale screen = s.settings.scale := by
  unfold shownScale Frame.fittingScale windowSize
  rw [h]
  omega

/-- The high one is shown at one half of it, rounded down, but at one at least. -/
theorem shownScale_of_high (h : screen.width = 128) :
    s.shownScale screen = max 1 (s.settings.scale / 2) := by
  unfold shownScale Frame.fittingScale windowSize
  rw [h]
  omega

theorem shownScale_pos (screen : Screen) : 0 < s.shownScale screen := by
  unfold shownScale Frame.fittingScale
  omega

variable (s) in
/-- The host of a session has room for the pixels of a screen at the scale at which it is shown. -/
def HasRoom (screen : Screen) : Prop :=
  screen.width * s.shownScale screen * (screen.height * s.shownScale screen) * Extent.reference ≤
    s.host.room.bytes

/-- The picture is the frame of the screen at the scale that is shown, if there is room for it. -/
theorem picture_eq_ok {m : Machine} (hm : s.machine = some m) (hroom : s.HasRoom m.core.screen) :
    s.picture s.windowSize.1 =
      .ok (Frame.ofScreen s.palette m.core.screen (s.shownScale m.core.screen).toNat) := by
  have hpos := shownScale_pos (s := s) m.core.screen
  unfold HasRoom at hroom
  rw [← Frame.length_numbers, ← Frame.area_of_rectangular (Frame.rectangular_numbers _)] at hroom
  have hframe : Frame.fitted? s.host.room s.palette m.core.screen s.windowSize.1 =
      .ok (Frame.ofScreen s.palette m.core.screen (s.shownScale m.core.screen).toNat) := by
    show Frame.ofRows? s.host.room s.palette (Frame.numbers m.core.screen)
      (s.shownScale m.core.screen) = _
    rw [Frame.ofRows?, if_neg (Int.not_le.2 hpos), Frame.checkScale_of_le hpos hroom]
    rfl
  unfold picture
  rw [hm]
  show (Frame.fitted? _ _ _ _).mapError SessionError.invalid = _
  rw [hframe]
  rfl

/-! ## A session to look at -/

/-- A session of a scale that shows a machine. -/
def sample (scale : Int) (m : Machine) : Session where
  settings :=
    { romPath := none
      scale := scale
      cyclesPerFrame := Settings.defaultCycles
      timerRate := Timers.defaultRate
      seed := none
      fullscreen := false
      traceCapacity := 0
      palette :=
        [[.whole 0x00, .whole 0x00, .whole 0x00], [.whole 0xFF, .whole 0xFF, .whole 0xFF]] }
  palette := .mono
  running := true
  paused := false
  machine := some m
  beeper := none
  host :=
    { hasWindows := true
      sampleRates := ⟨none, []⟩
      freeChannels := ⟨true, []⟩
      channelsFound := 0
      console := []
      files := .empty
      room := .all
      now := 0
      entropy := 0
      categories := []
      calls := []
      printed := [] }

/-- A machine whose program has switched to the high resolution. -/
def highSample : Machine := ((Machine.sample [0x00, 0xFF]).step 1).machine

theorem madeFrom_highSample : Machine.MadeFrom Machine.sampleSetup highSample := by
  have hstepped (m : Machine) (h : Machine.MadeFrom Machine.sampleSetup m) :
      Machine.MadeFrom Machine.sampleSetup (m.step 1).machine := h.performed (.still 1) .step
  rw [highSample]
  exact hstepped _ (Machine.madeFrom_sample [0x00, 0xFF])

theorem screen_highSample : highSample.core.screen = .high := by
  have hfit : [(0x00 : UInt8), 0xFF].length ≤ programCapacity := by decide
  have hrun : (Machine.sample [0x00, 0xFF]).status = .running := by
    rw [Machine.sample_eq hfit]
    rfl
  have hstep : ∀ timers random keys,
      ((Core.start [0x00, 0xFF] timers random).step keys).2.screen = .high := by
    intro timers random keys
    rw [Core.step_eq (Core.inRange_start _ _ _), Core.peek_start]
    rfl
  rw [highSample, Machine.core_step 1 hrun, Machine.sample_eq hfit,
    Core.ticked_start]
  exact hstep _ _ _

/-! ## The window -/

/-- **The pictures of the low resolution fill the window at every scale, those of the high
resolution at the even scales only.** At an odd scale they leave a border, or at the scale one reach
beyond the window. -/
theorem picture_fills_window_iff {m : Machine} {setup : Machine.Setup}
    (hscale : 0 < s.settings.scale) (hm : s.machine = some m) (hmade : Machine.MadeFrom setup m)
    (hroom : s.HasRoom m.core.screen) :
    ∃ frame, s.picture s.windowSize.1 = .ok frame ∧
      s.draw = (.ok (), (s.call (.blit frame)).call .flip) ∧
      frame.pixels.size = frame.width * frame.height ∧
      (m.core.screen.isHigh = false → frame.extent = s.windowSize) ∧
      (m.core.screen.isHigh = true →
        frame.extent = (128 * max 1 (s.settings.scale / 2), 64 * max 1 (s.settings.scale / 2)) ∧
          (frame.extent = s.windowSize ↔ 2 ∣ s.settings.scale) ∧
          (frame.extent.1 ≤ s.windowSize.1 ∧ frame.extent.2 ≤ s.windowSize.2 ↔
            s.settings.scale ≠ 1)) := by
  have hpicture := picture_eq_ok hm hroom
  refine ⟨_, hpicture, by rw [draw, hpicture], Frame.size_pixels_ofScreen _ _ _, ?_⟩
  -- whatever was done with a machine, it shows one of the two resolutions
  obtain ⟨hwidth, hheight⟩ | ⟨hwidth, hheight⟩ := hmade.keeps.core.screen
  · have hlow : m.core.screen.isHigh = false := by simp [Screen.isHigh, hwidth]
    rw [shownScale_of_low hscale hwidth, Frame.extent_ofScreen _ _ (Int.le_of_lt hscale), hwidth,
      hheight, hlow]
    refine ⟨fun _ => rfl, fun h => ?_⟩
    cases h
  · have hhigh : m.core.screen.isHigh = true := by simp [Screen.isHigh, hwidth, hheight]
    have hpos : 0 ≤ max 1 (s.settings.scale / 2) := by omega
    rw [shownScale_of_high hwidth, Frame.extent_ofScreen _ _ hpos, hwidth, hheight, hhigh]
    refine ⟨fun h => ?_, fun _ => ⟨rfl, ?_, ?_⟩⟩
    · cases h
    · rw [windowSize, Prod.mk.injEq]
      omega
    · rw [windowSize]
      omega

/-- At the scale four a picture of the high resolution fills the window. -/
theorem picture_fills_window_of_scale_four :
    ∃ frame, (sample 4 highSample).picture (sample 4 highSample).windowSize.1 = .ok frame ∧
      frame.extent = (sample 4 highSample).windowSize := by
  have hhigh : highSample.core.screen.isHigh = true := by
    rw [screen_highSample]
    rfl
  have hscale : (sample 4 highSample).shownScale highSample.core.screen = 2 := by
    rw [screen_highSample, shownScale_of_high rfl]
    rfl
  obtain ⟨frame, hpicture, -, -, -, hfills⟩ :=
    picture_fills_window_iff (s := sample 4 highSample) (by decide) rfl madeFrom_highSample
      (by rw [HasRoom, hscale, screen_highSample]; decide)
  exact ⟨frame, hpicture, (hfills hhigh).2.1.2 (by decide)⟩

/-- At the scale three it leaves a border. -/
theorem picture_leaves_border_of_scale_three :
    Machine.MadeFrom Machine.sampleSetup highSample ∧
      ∃ frame, (sample 3 highSample).picture (sample 3 highSample).windowSize.1 = .ok frame ∧
        frame.extent = (128, 64) ∧ (sample 3 highSample).windowSize = (192, 96) := by
  have hscale : (sample 3 highSample).shownScale highSample.core.screen = 1 := by
    rw [screen_highSample, shownScale_of_high rfl]
    rfl
  have hpicture := picture_eq_ok (s := sample 3 highSample) rfl
    (by rw [HasRoom, hscale, screen_highSample]; decide)
  refine ⟨madeFrom_highSample, _, hpicture, ?_, rfl⟩
  rw [hscale, screen_highSample, Frame.extent_ofScreen _ _ (by decide)]
  rfl

end Session

end SuperChip
