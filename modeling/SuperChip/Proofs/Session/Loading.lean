import SuperChip.Proofs.Session.Picture

/-!
# Loading program files

A program file passes several checks on its way into a machine: the file is read up to a bound, the
machine compares the size of the program with its capacity, and the memory does so again and checks
the bounds of the copy. All of them draw the line at the same size. So a program that was read is
always loaded, and a session that cannot read a program file has not touched its machine.

- `Rom.ofStream?_eq`: the program in a file, or the size of the whole file.
- `Machine.LoadsWhole`: a program is in memory from its first byte to its last.
- `ChecksAgree`: the checks of the loader, the machine and the memory draw the line at one size.
- `Session.Refuses`: the ways in which a program file is refused; `loadRom_eq_error_iff` says that
  loading it into a machine fails in no other way.
- `Session.Reloads`: the ways in which loading the program file again ends.
- `failed_reload_changes_nothing`: **what is read is loaded, and a reload that fails leaves the
  session as it was**.

About `load_rom`, `Machine.load`, `Memory.load_program` and `Chip8App._reload`.
-/

namespace SuperChip

/-! ## The program in a file -/

/-- A file is refused just if it is too large, with the size of all of it. -/
theorem Rom.ofStream?_eq (bytes : List UInt8) (name : String) :
    ofStream? ⟨bytes⟩ name =
      if programCapacity < bytes.length then .error (.programTooLarge bytes.length)
      else .ok ⟨bytes, name⟩ := by
  show (if programCapacity < (bytes.take (programCapacity + 1)).length then
      .error (.programTooLarge ((bytes.take (programCapacity + 1)).length +
        (bytes.drop (programCapacity + 1)).length))
    else .ok ⟨bytes.take (programCapacity + 1), name⟩ : Except Fault Rom) = _
  have hread : (bytes.take (programCapacity + 1)).length = min (programCapacity + 1) bytes.length :=
    List.length_take
  by_cases h : programCapacity < bytes.length
  · have hall : (bytes.take (programCapacity + 1)).length +
        (bytes.drop (programCapacity + 1)).length = bytes.length := by
      rw [← List.length_append, List.take_append_drop]
    rw [if_pos (by omega), if_pos h, hall]
  · rw [if_neg (by omega), if_neg h, List.take_of_length_le (by omega)]

/-! ## The program in memory -/

namespace Machine

variable {m : Machine} {now : Float} {program : List UInt8}

/-- Loading a program succeeds with all of it. -/
structure LoadsWhole (m : Machine) (now : Float) (program : List UInt8) : Prop where
  result : (m.load now program).value.2 = ⟨program.length, none⟩
  memory : (m.load now program).value.1.core.memory.slice 0x200 (0x200 + program.length) = program
  /-- The checked copy into the memory is not refused. -/
  checked : (Memory.powerOn 0x1000).1.loadProgram program =
    .ok (m.load now program).value.1.core.memory
  remembered : (m.load now program).value.1.program = program
  status : (m.load now program).value.1.status = .running

/-- A program that fits is loaded whole. -/
theorem loadsWhole (m : Machine) (now : Float) (h : program.length ≤ programCapacity) :
    m.LoadsWhole now program := by
  have hfit : Memory.programStart + program.length ≤ 0x1000 := by
    simp only [Memory.programStart, programCapacity] at h ⊢
    omega
  have hload := load_of_le (m := m) now h
  constructor
  · rw [hload]
  · rw [hload]
    exact Memory.slice_place _ _ _ hfit
  · rw [hload]
    exact loadProgram_eq _ h
  · rw [hload]
  · rw [hload]

/-- A program that is too large is refused with its size. -/
theorem load_of_lt (m : Machine) (now : Float) (h : programCapacity < program.length) :
    (m.load now program).value.2 = ⟨0, some (.programTooLarge program.length)⟩ := by
  rw [load, install, if_pos h]

end Machine

/-- The checks of a program file that are made by the loader, the machine and the memory draw the
line at one size. -/
structure ChecksAgree (bytes : List UInt8) (name : String) : Prop where
  loader : ∀ f, Rom.ofStream? ⟨bytes⟩ name = .error f ↔
    0xE00 < bytes.length ∧ f = .programTooLarge bytes.length
  machine : ∀ (m : Machine) (now : Float),
    (m.load now bytes).value.2.error = none ↔ bytes.length ≤ 0xE00
  memory : ∀ memory : Ram,
    (∃ memory', memory.loadProgram bytes = .ok memory') ↔ bytes.length ≤ 0xE00

/-- The checks of the size agree on every program. -/
theorem checksAgree (bytes : List UInt8) (name : String) : ChecksAgree bytes name := by
  rcases Nat.lt_or_ge programCapacity bytes.length with h | h
  · have hlarge : ¬ bytes.length ≤ 0xE00 := Nat.not_le.2 h
    constructor
    · intro f
      rw [Rom.ofStream?_eq, if_pos h, Except.error.injEq, eq_comm]
      exact (and_iff_right h).symm
    · intro m now
      simp [m.load_of_lt now h, hlarge]
    · intro memory
      simp [Memory.loadProgram, h, hlarge]
  · have hsmall : bytes.length ≤ 0xE00 := h
    constructor
    · intro f
      rw [Rom.ofStream?_eq, if_neg (Nat.not_lt.2 h)]
      simp [Nat.not_lt.2 hsmall]
    · intro m now
      simp [(m.loadsWhole now h).result, hsmall]
    · intro memory
      simp [Machine.loadProgram_eq memory h, hsmall]

namespace Session

variable {s : Session} {files : Files} {path : Path} {m : Machine} {e : SessionError}

/-! ## Reading a program file -/

/-- The ways in which a program file is refused. -/
inductive Refuses (files : Files) (path : Path) : SessionError → Prop where
  | missing (h : files.read path = .error .missing) : Refuses files path (.romNotFound path)
  | unreadable {e : FileError} (h : files.read path = .error e) (hother : e ≠ .missing) :
    Refuses files path (.romUnreadable path e)
  | oversize {bytes : List UInt8} (h : files.read path = .ok bytes)
    (hsize : programCapacity < bytes.length) :
    Refuses files path (.romRefused path (.programTooLarge bytes.length))

theorem readRom_of_le {bytes : List UInt8} (h : files.read path = .ok bytes)
    (hsize : bytes.length ≤ programCapacity) : readRom files path = .ok ⟨bytes, path.stem⟩ := by
  simp only [readRom, h, Rom.ofBytes?, Rom.ofStream?_eq, if_neg (Nat.not_lt.2 hsize)]

/-- A file that is refused is not read. -/
theorem readRom_of_refuses (h : Refuses files path e) : readRom files path = .error e := by
  cases h with
  | missing h => simp only [readRom, h]
  | @unreadable other h hother =>
    cases other with
    | missing => exact absurd rfl hother
    | notDirectory | isDirectory | tooLong | nullCharacter => simp only [readRom, h]
  | oversize h hsize => simp only [readRom, h, Rom.ofBytes?, Rom.ofStream?_eq, if_pos hsize]

/-- A program file is refused, or all of it is read. -/
theorem refuses_or_read (files : Files) (path : Path) :
    (∃ e, Refuses files path e) ∨
      ∃ bytes, files.read path = .ok bytes ∧ bytes.length ≤ programCapacity := by
  cases h : files.read path with
  | error e =>
    by_cases hmissing : e = .missing
    · subst hmissing
      exact .inl ⟨_, .missing h⟩
    · exact .inl ⟨_, .unreadable h hmissing⟩
  | ok bytes =>
    by_cases hsize : programCapacity < bytes.length
    · exact .inl ⟨_, .oversize h hsize⟩
    · exact .inr ⟨bytes, rfl, Nat.le_of_not_lt hsize⟩

/-! ## Loading it into a machine -/

/-- The session after a program was loaded, with what it printed about it. -/
def told (s : Session) (m : Machine) (path : Path) (bytes : List UInt8) : Session :=
  (s.observe (m.load s.host.now bytes).events).observe [.loaded path.stem bytes.length]

/-- The machine after a program was loaded. -/
def loaded (s : Session) (m : Machine) (bytes : List UInt8) : Machine :=
  (m.load s.host.now bytes).value.1

theorem loadRom_of_refuses (h : Refuses s.host.files path e) (m : Machine) :
    s.loadRom m path = (.error e, m, s) := by
  rw [loadRom, readRom_of_refuses h]

/-- A program that was read is loaded. -/
theorem loadRom_of_read {bytes : List UInt8} (h : s.host.files.read path = .ok bytes)
    (hsize : bytes.length ≤ programCapacity) (m : Machine) :
    s.loadRom m path = (.ok (), s.loaded m bytes, s.told m path bytes) := by
  have hresult := (m.loadsWhole s.host.now hsize).result
  rw [loadRom, readRom_of_le h hsize]
  simp only [hresult]
  rfl

/-- Loading a program file fails only where the file is refused. -/
theorem loadRom_eq_error_iff :
    (s.loadRom m path).1 = .error e ↔ Refuses s.host.files path e := by
  constructor
  · intro h
    rcases refuses_or_read s.host.files path with ⟨e', he'⟩ | ⟨bytes, hread, hsize⟩
    · rw [loadRom_of_refuses he'] at h
      cases h
      exact he'
    · rw [loadRom_of_read hread hsize] at h
      cases h
  · intro h
    rw [loadRom_of_refuses h]

/-! ## Loading it again -/

/-- The ways in which loading the program file again ends. -/
inductive Reloads (s : Session) : Except SessionError Unit × Session → Prop where
  | unnamed (hpath : s.settings.romPath = none) : Reloads s (.ok (), s)
  | refused {path : Path} {e : SessionError} (hpath : s.settings.romPath = some path)
    (h : Refuses s.host.files path e) : Reloads s (.error e, s)
  | noMachine {path : Path} (hpath : s.settings.romPath = some path) (hm : s.machine = none) :
    Reloads s (.error (.nothingTo "load"), s)
  | loaded {path : Path} {m : Machine} {bytes : List UInt8}
    (hpath : s.settings.romPath = some path) (hm : s.machine = some m)
    (h : s.host.files.read path = .ok bytes) (hsize : bytes.length ≤ programCapacity) :
    Reloads s (.ok (),
      { s.told m path bytes with
        machine := some { s.loaded m bytes with keypad := (s.loaded m bytes).keypad.reset }
        paused := false })

/-- A file that is refused leaves the session as it was. -/
theorem reload_of_refuses (hpath : s.settings.romPath = some path)
    (h : Refuses s.host.files path e) : s.reload = (.error e, s) := by
  cases hm : s.machine with
  | none => simp only [reload, hpath, hm, readRom_of_refuses h]
  | some m =>
    simp only [reload, hpath, hm, loadRom_of_refuses h]
    rw [← hm]

theorem reloads (s : Session) : s.Reloads s.reload := by
  cases hpath : s.settings.romPath with
  | none =>
    have hreload : s.reload = (.ok (), s) := by simp only [reload, hpath]
    rw [hreload]
    exact .unnamed hpath
  | some path =>
    rcases refuses_or_read s.host.files path with ⟨e, he⟩ | ⟨bytes, hread, hsize⟩
    · rw [reload_of_refuses hpath he]
      exact .refused hpath he
    · cases hm : s.machine with
      | none =>
        simp only [reload, hpath, hm, readRom_of_le hread hsize]
        exact .noMachine hpath hm
      | some m =>
        simp only [reload, hpath, hm, loadRom_of_read hread hsize]
        exact .loaded hpath hm hread hsize

/-- A reload that fails leaves the session with its machine, its keypad and its host as it was. -/
theorem reload_of_error (h : s.reload.1 = .error e) : s.reload.2 = s := by
  have hspec := s.reloads
  generalize s.reload = result at h hspec
  cases hspec with
  | unnamed | loaded => cases h
  | refused | noMachine => rfl

/-! ## Everything together -/

/-- **What is read is loaded, and a reload that fails leaves the session as it was.** The loader
refuses a file just if it has more bytes than a program may have. What it does not refuse, no
machine refuses, so that loading fails only where reading does. -/
theorem failed_reload_changes_nothing :
    (∀ (bytes : List UInt8) (name : String), ChecksAgree bytes name ∧
      ∀ rom, Rom.ofStream? ⟨bytes⟩ name = .ok rom →
        rom = ⟨bytes, name⟩ ∧ ∀ (m : Machine) (now : Float), m.LoadsWhole now rom.data) ∧
    (∀ (s : Session) (m : Machine) (path : Path) (e : SessionError),
      (s.loadRom m path).1 = .error e ↔ Refuses s.host.files path e) ∧
    ∀ s : Session, s.Reloads s.reload ∧ ∀ e, s.reload.1 = .error e → s.reload.2 = s := by
  refine ⟨fun bytes name => ⟨checksAgree bytes name, ?_⟩, fun s m path e => loadRom_eq_error_iff,
    fun s => ⟨s.reloads, fun e => reload_of_error⟩⟩
  intro rom hrom
  rw [Rom.ofStream?_eq] at hrom
  split at hrom
  · cases hrom
  next h =>
    cases hrom
    exact ⟨rfl, fun m now => m.loadsWhole now (Nat.le_of_not_lt h)⟩

/-- A session whose program file is gone, and program files of the largest size and of one byte
more. -/
theorem failed_reload_of_sample :
    let path : Path := ⟨"", ["missing.ch8"]⟩
    let named := { (sample 4 highSample).settings with romPath := some path }
    let s := { sample 4 highSample with settings := named }
    s.reload = (.error (.romNotFound path), s) ∧
      Rom.ofStream? ⟨List.replicate 0xE01 0⟩ "large" = .error (.programTooLarge 0xE01) ∧
      highSample.LoadsWhole 0 (List.replicate 0xE00 0) := by
  intro path named s
  obtain ⟨hfile, -, hreload⟩ := failed_reload_changes_nothing
  refine ⟨?missing, ?large, ?largest⟩
  case missing =>
    have hread : Files.empty.read ⟨"", ["missing.ch8"]⟩ = .error .missing := by rfl
    have hresult := congrArg Prod.fst (reload_of_refuses (s := s) rfl (.missing hread))
    exact Prod.ext hresult ((hreload s).2 _ hresult)
  case large =>
    have hlength : (List.replicate 0xE01 (0 : UInt8)).length = 0xE01 := List.length_replicate
    refine ((hfile _ "large").1.loader _).2 ⟨?_, ?_⟩
    · rw [hlength]
      decide
    · rw [hlength]
  case largest =>
    have hfit : ¬ programCapacity < (List.replicate 0xE00 (0 : UInt8)).length := by
      rw [List.length_replicate]
      decide
    have hread := Rom.ofStream?_eq (List.replicate 0xE00 0) "largest"
    rw [if_neg hfit] at hread
    exact ((hfile _ "largest").2 _ hread).2 highSample 0

end Session

end SuperChip
