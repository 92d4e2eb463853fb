import SuperChip.Proofs.Machine.Lifecycle
import SuperChip.Proofs.Session.Picture
import SuperChip.Session.Clock

/-!
# What the debug shell changes

The debug shell shows a machine that is in the middle of its work, so it must not disturb it.
Whatever is typed, only a step reaches the machine, and only leaving ends the session.

- `Command.closes`, `Command.leaves`: the commands that close the shell, and those of them that end
  the session.
- `parse_eq_step_iff`, `closes_parse_iff`, `leaves_parse_iff`: how they are typed.
- `Session.executeOn_of_ne_step`, `Session.executeOn_step`: what a command leaves behind.
- `shell_only_steps`: **whatever is typed has an effect, and only a step has one on the machine**.

About `Chip8App.handle_debug_command`.
-/

namespace SuperChip

namespace Command

/-- Whether a command closes the shell. -/
def closes : Command → Bool
  | resume | quit => true
  | _ => false

/-- Whether a command ends the session. -/
def leaves : Command → Bool
  | quit => true
  | _ => false

variable {line : String}

/-- What is typed is one of the fixed words, or its first letter decides. -/
inductive Typed (line : String) : Command → Prop
  | resume (h : line ∈ ["", "resume"]) : Typed line .resume
  | quit (h : line ∈ ["q", "quit", "exit"]) : Typed line .quit
  | registers (h : line ∈ ["r", "regs", "registers"]) : Typed line .registers
  | trace (h : line ∈ ["t", "trace"]) : Typed line .trace
  | step (h : line ∈ ["s", "step"]) : Typed line .step
  | memory {rest : List Char} (h : line.toList = 'm' :: rest) :
    Typed line (.memory (Text.strip (String.ofList rest)))
  | disassemble {rest : List Char} (h : line.toList = 'd' :: rest) :
    Typed line (.disassemble (Text.strip (String.ofList rest)))
  | unknown : Typed line .unknown

/-- Every line is one of the commands. -/
theorem typed_parse (line : String) : Typed line (parse line) := by
  unfold parse
  split
  next h => exact .resume h
  split
  next h => exact .quit h
  split
  next h => exact .registers h
  split
  next h => exact .trace h
  split
  next h => exact .step h
  split
  next h => exact .memory h
  next h => exact .disassemble h
  next => exact .unknown

/-- There are two lines that step. -/
theorem parse_eq_step_iff : parse line = .step ↔ line ∈ ["s", "step"] := by
  constructor
  · intro h
    have htyped := typed_parse line
    rw [h] at htyped
    cases htyped with
    | step h => exact h
  · intro h
    obtain rfl | rfl : line = "s" ∨ line = "step" := by simpa using h
    · rfl
    · rfl

/-- There are three lines that end the session. -/
theorem leaves_parse_iff : (parse line).leaves = true ↔ line ∈ ["q", "quit", "exit"] := by
  constructor
  · intro h
    have htyped := typed_parse line
    generalize parse line = c at h htyped
    cases htyped with
    | quit hline => exact hline
    | _ => cases h
  · intro h
    obtain rfl | rfl | rfl : line = "q" ∨ line = "quit" ∨ line = "exit" := by simpa using h
    · rfl
    · rfl
    · rfl

/-- There are five lines that close the shell, the empty one among them. -/
theorem closes_parse_iff :
    (parse line).closes = true ↔ line ∈ ["", "resume", "q", "quit", "exit"] := by
  constructor
  · intro h
    have htyped := typed_parse line
    generalize parse line = c at h htyped
    cases htyped with
    | resume hline => exact List.mem_append_left ["q", "quit", "exit"] hline
    | quit hline => exact List.mem_append_right ["", "resume"] hline
    | _ => cases h
  · intro h
    obtain hline | hline := List.mem_append.1 (show line ∈ ["", "resume"] ++ _ from h)
    · obtain rfl | rfl : line = "" ∨ line = "resume" := by simpa using hline
      · rfl
      · rfl
    · have hleaves := leaves_parse_iff.2 hline
      generalize parse line = c at hleaves
      cases c with
      | quit => rfl
      | _ => cases hleaves

end Command

namespace Session

variable {s : Session} {m : Machine}

/-! ## Commands -/

/-- The session after a step of its machine, before anything is printed about its result. -/
def stepped (s : Session) (m : Machine) (clock : Clock) : Session :=
  { s with machine := some (m.stepOn clock).machine }.observe (m.stepOn clock).events

/-- A command other than a step prints lines, and leaves everything else as it is. -/
theorem executeOn_of_ne_step (s : Session) (m : Machine) (clock : Clock) {c : Command}
    (hc : c ≠ .step) :
    ∃ lines, s.executeOn clock m c =
      (!c.closes, { s.printAll lines with running := s.running && !c.leaves }) := by
  have hkept (lines : List String) :
      s.printAll lines = { s.printAll lines with running := s.running && true } := by
    rw [Bool.and_true]
    rfl
  cases c with
  | resume => exact ⟨[], congrArg (Prod.mk false) (hkept [])⟩
  | quit =>
    refine ⟨["Exiting emulator."], congrArg (Prod.mk false) ?_⟩
    show s.leave = { s.leave with running := s.running && false }
    rw [Bool.and_false]
    rfl
  | registers => exact ⟨m.dump.lines, congrArg (Prod.mk true) (hkept _)⟩
  | trace => exact ⟨Shell.traceLines m, congrArg (Prod.mk true) (hkept _)⟩
  | step => exact absurd rfl hc
  | memory argument => exact ⟨Shell.memoryLines m argument, congrArg (Prod.mk true) (hkept _)⟩
  | disassemble argument =>
    exact ⟨Shell.listingLines m argument, congrArg (Prod.mk true) (hkept _)⟩
  | unknown =>
    exact ⟨["Unknown command"], congrArg (Prod.mk true) (hkept ["Unknown command"])⟩

/-- A step ends with a result, and is told about. -/
theorem executeOn_step (s : Session) (h : m.core.InRange) (clock : Clock) :
    ∃ r, (m.stepOn clock).result = .ok r ∧
      s.executeOn clock m .step = (true, (s.stepped m clock).print (Shell.stepLine r)) := by
  obtain ⟨r, hr, -⟩ := Machine.exists_tellsStep h clock
  refine ⟨r, hr, ?_⟩
  simp only [executeOn, hr]
  rfl

theorem commandOn_eq (hm : s.machine = some m) (clock : Clock) (line : String) :
    s.commandOn clock line =
      (.ok (s.executeOn clock m (Command.parse line)).1,
        (s.executeOn clock m (Command.parse line)).2) := by
  simp only [commandOn, hm]

/-! ## All commands -/

/-- **Whatever is typed has an effect, and only a step has one on the machine.** The shell closes on
five lines, of which three end the session. A step is the step of the machine with its result told.
Every other line, whatever address it names, prints lines and leaves all else as it is. -/
theorem shell_only_steps {setup : Machine.Setup} (hmade : Machine.MadeFrom setup m)
    (hm : s.machine = some m) (clock : Clock) (line : String) :
    ∃ stays s', s.commandOn clock line = (.ok stays, s') ∧
      (stays = false ↔ line ∈ ["", "resume", "q", "quit", "exit"]) ∧
      s'.running = (s.running && decide (line ∉ ["q", "quit", "exit"])) ∧
      (line ∈ ["s", "step"] → ∃ r, (m.stepOn clock).result = .ok r ∧
        s' = ({ s with machine := some (m.stepOn clock).machine }.observe
          (m.stepOn clock).events).print (Shell.stepLine r)) ∧
      (line ∉ ["s", "step"] → s'.machine = some m ∧
        ∃ lines, s' = { s.printAll lines with running := s'.running }) := by
  rw [commandOn_eq hm]
  refine ⟨_, _, rfl, ?_⟩
  have hleaves : decide (line ∉ ["q", "quit", "exit"]) = !(Command.parse line).leaves := by
    rw [decide_not, Bool.eq_iff_iff.2 (decide_eq_true_iff.trans Command.leaves_parse_iff.symm)]
  rw [← Command.closes_parse_iff, ← Command.parse_eq_step_iff, hleaves]
  by_cases hstep : Command.parse line = .step
  · obtain ⟨r, hr, heffect⟩ := s.executeOn_step hmade.keeps.core.toInRange clock
    rw [hstep, heffect]
    refine ⟨⟨nofun, nofun⟩, ?_, fun _ => ⟨r, hr, rfl⟩, fun hother => absurd rfl hother⟩
    show s.running = (s.running && !false)
    simp
  · obtain ⟨lines, heffect⟩ := s.executeOn_of_ne_step m clock hstep
    rw [heffect]
    refine ⟨?_, rfl, fun hother => absurd hother hstep, fun _ => ⟨hm, lines, rfl⟩⟩
    cases (Command.parse line).closes <;> simp

/-- An address below zero is shown without touching the machine, and leaving ends the session. -/
theorem shell_only_steps_of_sample :
    ∃ m, Machine.sample [0x60, 0x2A] = m ∧ Machine.MadeFrom Machine.sampleSetup m ∧
      (∃ s', (sample 4 m).commandOn (.still 0) "d -0x1" = (.ok true, s') ∧
        s'.running = true ∧ s'.machine = some m) ∧
      ∃ s', (sample 4 m).commandOn (.still 0) "quit" = (.ok false, s') ∧
        s'.running = false ∧ s'.machine = some m := by
  have hmade := Machine.madeFrom_sample [0x60, 0x2A]
  refine ⟨_, rfl, hmade, ?shown, ?left⟩
  case shown =>
    obtain ⟨stays, s', heffect, hcloses, hrunning, -, hkept⟩ :=
      shell_only_steps (s := sample 4 _) hmade rfl (.still 0) "d -0x1"
    have hstays : stays = true := by
      cases stays with
      | true => rfl
      | false => exact absurd (hcloses.1 rfl) (by decide)
    exact ⟨s', hstays ▸ heffect, hrunning, (hkept (by decide)).1⟩
  case left =>
    obtain ⟨stays, s', heffect, hcloses, hrunning, -, hkept⟩ :=
      shell_only_steps (s := sample 4 _) hmade rfl (.still 0) "quit"
    exact ⟨s', hcloses.2 (by decide) ▸ heffect, hrunning, (hkept (by decide)).1⟩

end Session

end SuperChip
