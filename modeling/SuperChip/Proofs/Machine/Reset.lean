import Mathlib.Data.List.Forall2
import SuperChip.Machine.Snapshot
import SuperChip.Proofs.Machine.TwoRuns

/-!
# Resetting

A reset rebuilds a machine from the program that it remembers, the period of its timers and its
source of random bytes. Nothing else of its past is left where a host could see it.

- `RandomSource.SameBytes`: two sources hand out the same bytes for ever.
- `Core.SameButSource`: two processors that differ in such sources only; `congruence_sameButSource`:
  everything that happens to both keeps them so.
- `Machine.View`: what a host can see of a machine; `Machine.shows`: what it is told and what it
  sees turn after turn.
- `Machine.Indistinguishable`: no turns tell two machines apart.
- `Machine.Fresh`: a machine at the start of a program; `toList_boot` is its memory.
- `reset_forgets_history`: **after a reset nothing tells apart machines that remember one program**.

About `Machine.reset` and `load`.
-/

namespace SuperChip

/-! ## The bytes of a source -/

namespace RandomSource

/-- The byte that a source hands out after so many others. -/
def byte : RandomSource → Nat → UInt8
  | r, 0 => r.next.1
  | r, k + 1 => byte r.next.2 k

/-- Two sources hand out the same bytes for ever. -/
def SameBytes (r r' : RandomSource) : Prop := ∀ k, r.byte k = r'.byte k

theorem SameBytes.refl (r : RandomSource) : r.SameBytes r := fun _ => rfl

variable {r r' : RandomSource}

/-- Sources of the same bytes give the same byte now and the same bytes later. -/
theorem SameBytes.next (h : r.SameBytes r') :
    r.next.1 = r'.next.1 ∧ r.next.2.SameBytes r'.next.2 :=
  ⟨h 0, fun k => h (k + 1)⟩

theorem SameBytes.afterInstruction (h : r.SameBytes r') (i : Instruction) :
    (i.randomAfter r).SameBytes (i.randomAfter r') := by
  cases i with
  | rnd x mask => exact h.next.2
  | _ => exact h

/-- They do so after a step. -/
theorem SameBytes.randomAfter (h : r.SameBytes r') (c : Core) :
    (c.randomAfter r).SameBytes (c.randomAfter r') := by
  unfold Core.randomAfter
  cases c.peek with
  | error f => exact h
  | ok d => exact h.afterInstruction d.instruction

end RandomSource

namespace Core

/-- Two processors are the same but for their sources of random bytes, which hand out the same. -/
def SameButSource (c c' : Core) : Prop :=
  ∃ random, c' = c.withDevices c.timers random ∧ c.random.SameBytes random

/-- Processors that differ in their sources only step alike. -/
theorem SameButSource.step {c c' : Core} (h : c.SameButSource c') (keys : Keys) :
    StepsAlike SameButSource keys c c' := by
  obtain ⟨random, rfl, hbytes⟩ := h
  -- a step reads at most the next byte of the source, which is the same
  have hreads : c.ReadsAlike c.timers random := by
    intro d _
    cases d.instruction with
    | ldFromDelay x => rfl
    | rnd x mask => exact hbytes.next.1.symm
    | _ => trivial
  have hstep := step_withDevices keys hreads
  obtain ⟨htimers, hrandom⟩ := devices_step (c := c) keys
  constructor
  · rw [hstep]
  · rw [hstep, ← htimers]
    refine ⟨_, rfl, ?_⟩
    rw [hrandom]
    exact hbytes.randomAfter c

/-- Whatever happens to both processors, they differ in their sources only. -/
theorem congruence_sameButSource : Congruence SameButSource where
  verdict := by
    rintro c _ ⟨random, rfl, -⟩
    rfl
  waiting := by
    rintro c _ ⟨random, rfl, -⟩
    rfl
  tick := by
    rintro c _ ⟨random, rfl, hbytes⟩ delay sound
    exact ⟨random, rfl, hbytes⟩
  step h keys := h.step keys
  start := by
    rintro c _ ⟨random, rfl, hbytes⟩ program delay sound
    exact ⟨random, rfl, hbytes⟩
  memory := by
    rintro c _ ⟨random, rfl, -⟩
    rfl
  put := by
    rintro c _ ⟨random, rfl, hbytes⟩ memory
    exact ⟨random, rfl, hbytes⟩

end Core

/-! ## What a host sees -/

/-- What a host can see of a machine. -/
structure View where
  dump : Snapshot
  memory : Ram
  screen : Screen
  sounding : Bool
  steps : Nat

/-- What a host does in one turn: it gives the keys a state and then acts, on a clock. -/
structure Turn where
  keypad : Keypad
  clock : Clock
  action : Action

/-- Two turns give two machines the same keys and do the same with them. -/
structure Turn.Like (t t' : Turn) : Prop where
  keys : t.keypad.snapshot = t'.keypad.snapshot
  clock : t.clock = t'.clock
  action : t.action = t'.action
  /-- The keys are given by the turn itself. -/
  apart : t.action.usesKeypad = false

namespace Machine

/-- What a host can see of the machine. -/
def view (m : Machine) : View where
  dump := m.dump
  memory := m.core.memory
  screen := m.core.screen
  sounding := m.soundActive
  steps := m.steps

/-- What a turn leaves behind. -/
def take (m : Machine) (t : Turn) : Performed :=
  { m with keypad := t.keypad }.respond t.clock t.action

/-- What a host is told and what it sees after each of its turns. -/
def shows (m : Machine) : List Turn → List (Answer × View)
  | [] => []
  | t :: rest =>
    let taken := m.take t
    (taken.answer, taken.machine.view) :: taken.machine.shows rest

/-- Two machines look the same, and go on to do so whatever happens to both of them. -/
def Indistinguishable (m m' : Machine) : Prop :=
  m.view = m'.view ∧
    ∀ turns turns', List.Forall₂ Turn.Like turns turns' → m.shows turns = m'.shows turns'

/-- Two machines differ in their sources of random bytes, their keypads and their traces only. -/
def Akin (m m' : Machine) : Prop := m.Alike Core.SameButSource { m' with keypad := m.keypad }

variable {m m' : Machine}

/-- Nothing that is shown depends on the source itself. -/
theorem Alike.view_eq (h : m.Alike Core.SameButSource m') : m.view = m'.view := by
  obtain ⟨⟨random, hcore, -⟩, -, hstatus, -, hsteps⟩ := h
  unfold view dump soundActive
  rw [hcore, hstatus, hsteps]
  rfl

/-- Turns that do the same get the same answers, and leave machines that differ no more. -/
theorem Akin.take (h : m.Akin m') {t t' : Turn} (ht : t.Like t') :
    (m.take t).answer = (m'.take t').answer ∧
      (m.take t).machine.Alike Core.SameButSource (m'.take t').machine := by
  obtain ⟨keypad, clock, a⟩ := t
  obtain ⟨keypad', _, _⟩ := t'
  obtain ⟨hkeys, rfl, rfl, ha⟩ := ht
  have hready :
      Alike Core.SameButSource { m with keypad := keypad } { m' with keypad := keypad' } :=
    ⟨h.core, hkeys, h.status, h.program, h.steps⟩
  exact hready.respond Core.congruence_sameButSource clock ha

theorem Alike.akin (h : m.Alike Core.SameButSource m') : m.Akin m' :=
  ⟨h.core, rfl, h.status, h.program, h.steps⟩

/-- Akin machines show the same, turn after turn. -/
theorem Akin.shows_eq (h : m.Akin m') {turns turns' : List Turn}
    (hturns : List.Forall₂ Turn.Like turns turns') : m.shows turns = m'.shows turns' := by
  -- each turn replaces the keypads, so the machines are akin again only without them
  induction hturns generalizing m m' with
  | nil => rfl
  | @cons t t' rest rest' ht _ ih =>
    obtain ⟨hanswer, hnext⟩ := h.take ht
    show ((m.take t).answer, (m.take t).machine.view) :: (m.take t).machine.shows rest =
      ((m'.take t').answer, (m'.take t').machine.view) :: (m'.take t').machine.shows rest'
    rw [hanswer, hnext.view_eq, ih hnext.akin]

/-- Machines that differ so little cannot be told apart. -/
theorem Akin.indistinguishable (h : m.Akin m') : m.Indistinguishable m' := by
  have hview : m.view = Machine.view { m' with keypad := m.keypad } := Alike.view_eq h
  exact ⟨hview, fun _ _ hturns => h.shows_eq hturns⟩

/-! ## After a reset -/

/-- A machine at the start of a program: it runs, and its memory holds the glyphs, the program and
nothing else. -/
structure Fresh (m : Machine) (program : List UInt8) : Prop where
  memory : m.core.memory.cells.toList =
    Glyph.small ++ Glyph.large ++ List.replicate 0x110 0 ++ program ++
      List.replicate (programCapacity - program.length) 0
  status : m.status = .running
  reason : m.status.reason? = none
  fault : m.status.fault? = none

/-- Bytes that are written behind the part of a memory that is in use, with a gap between. -/
theorem toList_place_behind {size address gap rest : Nat} {memory : Memory size}
    {used bytes : List UInt8} (haddress : address = used.length + gap)
    (hmemory : memory.cells.toList = used ++ List.replicate (gap + bytes.length + rest) 0) :
    (memory.place address bytes).cells.toList =
      used ++ List.replicate gap 0 ++ bytes ++ List.replicate rest 0 := by
  have hsize : size = used.length + (gap + bytes.length + rest) := by
    have hlength := congrArg List.length hmemory
    rwa [Vector.length_toList, List.length_append, List.length_replicate] at hlength
  have hgap : min gap (gap + bytes.length + rest) = gap := by omega
  subst haddress
  rw [Memory.toList_place _ _ _ (by omega), hmemory, List.take_length_add_append,
    List.take_replicate, hgap, Nat.add_assoc, List.drop_length_add_append, List.drop_replicate,
    Nat.add_sub_cancel_left]

/-- The memory that a program is started in, from its first cell to its last. -/
theorem toList_boot {program : List UInt8} (h : program.length ≤ programCapacity) :
    (Ram.boot program).cells.toList =
      Glyph.small ++ Glyph.large ++ List.replicate 0x110 0 ++ program ++
        List.replicate (programCapacity - program.length) 0 := by
  -- the large glyphs stand right behind the small ones, and the program behind a gap
  have hsmall : ((Memory.blank 0x1000).place Glyph.smallBase Glyph.small).cells.toList =
      [] ++ List.replicate 0 0 ++ Glyph.small ++ List.replicate 0xFB0 0 := by
    refine toList_place_behind rfl ?_
    rw [Glyph.length_small]
    exact Vector.toList_replicate
  have hlarge : (Memory.powerOn 0x1000).1.cells.toList =
      Glyph.small ++ List.replicate 0 0 ++ Glyph.large ++ List.replicate 0xF10 0 := by
    rw [powerOn_eq]
    refine toList_place_behind ?_ ?_
    · rw [Glyph.length_small, Glyph.largeBase]
    · rw [Glyph.length_large]
      exact hsmall
  refine toList_place_behind ?_ ?_
  · rw [List.length_append, Glyph.length_small, Glyph.length_large, Memory.programStart]
  · rw [Nat.add_assoc, Nat.add_sub_cancel' h]
    exact hlarge

/-- A reset makes a machine fresh. -/
theorem fresh_resetOn (h : m.program.length ≤ programCapacity) (clock : Clock) :
    (m.resetOn clock).value.Fresh m.program :=
  ⟨toList_boot h, rfl, rfl, rfl⟩

/-- Resets make machines with the same program akin. -/
theorem akin_resetOn {period : Float} (h : m.Keeps period) (h' : m'.Keeps period)
    (hprogram : m.program = m'.program) (hbytes : m.core.random.SameBytes m'.core.random)
    (clock : Clock) : (m.resetOn clock).value.Akin (m'.resetOn clock).value := by
  refine ⟨?_, rfl, rfl, hprogram, rfl⟩
  rw [core_resetOn, core_resetOn, ← hprogram, ← h.timers.resetAt_eq h'.timers]
  exact ⟨m'.core.random, rfl, hbytes⟩

/-- A program that does not fit is not remembered. -/
theorem program_loadOn_of_lt {rom : List UInt8} (h : programCapacity < rom.length)
    (clock : Clock) : (m.loadOn clock rom).value.1.program = [] := by
  rw [loadOn, install, if_pos h]
  exact (sameParts_stop _).program

/-- Resetting a machine and loading what it remembers into another. -/
theorem akin_loadOn {period : Float} (h : m.Keeps period) (h' : m'.Keeps period)
    {rom : List UInt8} (hprogram : m.program = rom)
    (hbytes : m.core.random.SameBytes m'.core.random) (clock : Clock) :
    (m.resetOn clock).value.Akin (m'.loadOn clock rom).value.1 := by
  subst hprogram
  have hready : Keeps { m' with program := m.program } period :=
    ⟨⟨h'.core, h'.pc_le, h'.not_exited, h.program_le⟩, h'.timers⟩
  rw [loadOn_of_le clock h.program_le]
  exact akin_resetOn h hready rfl hbytes clock

/-- **A reset forgets the past.** Machines whose timers have one rate and that remember one program
cannot be told apart after a reset, whatever was done with them before, and the reset leaves them
at the start of the program. Neither can a machine that was loaded, used and reset be told apart
from one that was just loaded, or from one without a program if what was loaded was too large. -/
theorem reset_forgets_history {setup setup' : Setup} (h : MadeFrom setup m)
    (h' : MadeFrom setup' m') (hrate : setup.rate = setup'.rate) (clock : Clock) :
    (m.program = m'.program → m.core.random.SameBytes m'.core.random →
      (m.resetOn clock).value.Indistinguishable (m'.resetOn clock).value) ∧
    (m.resetOn clock).value.Fresh m.program ∧
    ∀ (loading : Clock) (rom : List UInt8) (history : List (Clock × Action)),
      (∀ turn ∈ history, turn.2.loads = false) →
      ((m.loadOn loading rom).value.1.after history).core.random.SameBytes m'.core.random →
        (rom.length ≤ programCapacity →
          (((m.loadOn loading rom).value.1.after history).resetOn clock).value.Indistinguishable
            (m'.loadOn clock rom).value.1) ∧
        (programCapacity < rom.length →
          (((m.loadOn loading rom).value.1.after history).resetOn clock).value.Indistinguishable
            (m'.loadOn clock []).value.1) := by
  have hkeeps := h.keeps
  have hkeeps' := h'.keeps
  rw [← hrate] at hkeeps'
  refine ⟨?_, fresh_resetOn hkeeps.program_le clock, ?_⟩
  · intro hprogram hbytes
    exact (akin_resetOn hkeeps hkeeps' hprogram hbytes clock).indistinguishable
  · intro loading rom history hkept hbytes
    have hused := ((h.performed loading (.load rom)).after history).keeps
    have hprogram := program_after (m := (m.loadOn loading rom).value.1) hkept
    constructor
    · intro hfits
      have hremembered : (m.loadOn loading rom).value.1.program = rom := by
        rw [loadOn_of_le loading hfits]
        rfl
      exact (akin_loadOn hused hkeeps' (hprogram.trans hremembered) hbytes clock).indistinguishable
    · intro hlarge
      have hforgotten := program_loadOn_of_lt (m := m) hlarge loading
      exact (akin_loadOn hused hkeeps' (hprogram.trans hforgotten) hbytes clock).indistinguishable

/-- Two machines of one setup with one program, which one of them ran to its end, and a machine that
was given more than fits. -/
theorem reset_forgets_history_of_sample :
    let m := ((ofSetup sampleSetup 0 none).resetOn (.still 0)).value
    let loaded := (m.loadOn (.still 1) [0x00, 0xFD]).value.1
    let overfull := (m.loadOn (.still 1) (List.replicate 0xE01 0)).value.1
    ((loaded.after [(.still 2, .step)]).resetOn (.still 3)).value.Indistinguishable
        (loaded.resetOn (.still 3)).value ∧
      ((loaded.after [(.still 2, .step)]).resetOn (.still 3)).value.Indistinguishable
        (m.loadOn (.still 3) [0x00, 0xFD]).value.1 ∧
      (overfull.resetOn (.still 3)).value.Indistinguishable (m.loadOn (.still 3) []).value.1 := by
  intro m loaded overfull
  have hon : switchOn sampleSetup (.still 0) false = .ok _ :=
    (switchOn_eq_ok_iff _).2 ⟨by decide, none, rfl, rfl⟩
  have hm : MadeFrom sampleSetup m := .switchedOn hon
  have hloaded : MadeFrom sampleSetup loaded := hm.performed (.still 1) (.load [0x00, 0xFD])
  have hfit : [(0x00 : UInt8), 0xFD].length ≤ programCapacity := by decide
  have hfresh : loaded = (resetOn { m with program := [0x00, 0xFD] } (.still 1)).value :=
    loadOn_of_le _ hfit
  -- the program ends itself in its first step, which draws no random byte
  have hexit : ∀ timers random keys,
      ((Core.start [0x00, 0xFD] timers random).step keys).2.random = random := by
    intro timers random keys
    rw [Core.step_eq (Core.inRange_start _ _ _), Core.peek_start]
    rfl
  have hrun : loaded.status = .running := by
    rw [hfresh]
    rfl
  have hrandom : (loaded.after [(.still 2, .step)]).core.random = loaded.core.random := by
    rw [after_cons, after_nil, machine_respond_still, perform, core_step 2 hrun, hfresh,
      core_resetOn, Core.ticked_start, hexit]
    rfl
  obtain ⟨hpair, -, -⟩ :=
    reset_forgets_history (hloaded.after [(.still 2, .step)]) hloaded rfl (.still 3)
  obtain ⟨-, -, hload⟩ := reset_forgets_history hm hm rfl (.still 3)
  refine ⟨hpair (program_after (by simp [Action.loads])) ?_, ?_, ?_⟩
  · rw [hrandom]
    exact .refl _
  · refine (hload (.still 1) [0x00, 0xFD] [(.still 2, .step)] (by simp [Action.loads]) ?_).1 hfit
    rw [hrandom, random_loadOn]
    exact .refl _
  · refine (hload (.still 1) (List.replicate 0xE01 0) [] (by simp) ?_).2 ?_
    · rw [after_nil, random_loadOn]
      exact .refl _
    · rw [List.length_replicate]
      decide

end Machine

end SuperChip
