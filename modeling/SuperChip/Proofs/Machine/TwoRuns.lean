import SuperChip.Proofs.Machine.Script

/-!
# Two runs of a machine

Two machines that a host treats in the same way may differ in parts that it never gets to see. Which
parts these are is told by a relation between their processors; this module carries such a relation
from one instruction to everything that a host can do.

- `Core.Hides`: a machine cannot tell related processors apart.
- `Machine.Alike`: two machines whose processors are related, and which are otherwise in the same
  state as far as a host sees it without the trace.
- `Alike.stepAt`: **one step of both**, on clocks that need not agree.
- `Core.Congruence`: the relation is kept by every instruction and by everything else that changes
  a processor.
- `Alike.respond`: **both give the same answers, and stay alike**.
-/

namespace SuperChip

/-- A machine cannot tell related processors apart: it passes the same verdict on them, and they
both wait or do not. -/
structure Core.Hides (S : Core → Core → Prop) : Prop where
  verdict : ∀ {c c'}, S c c' → c.verdict = c'.verdict
  waiting : ∀ {c c'}, S c c' → c.waiting = c'.waiting

/-- Both processors take the same step. -/
structure Core.StepsAlike (S : Core → Core → Prop) (keys : Keys) (c c' : Core) : Prop where
  outcome : (c.step keys).1 = (c'.step keys).1
  core : S (c.step keys).2 (c'.step keys).2

namespace Machine

/-- Two machines whose processors are related and which show the same keys, run the same program
and are in the same status after as many steps. -/
structure Alike (S : Core → Core → Prop) (m m' : Machine) : Prop where
  core : S m.core m'.core
  keys : m.keypad.snapshot = m'.keypad.snapshot
  status : m.status = m'.status
  program : m.program = m'.program
  steps : m.steps = m'.steps

variable {S : Core → Core → Prop} {m m' : Machine}

/-- Machines that are alike are halted together. -/
theorem Alike.isHalted_eq (h : m.Alike S m') : m.isHalted = m'.isHalted :=
  congrArg Status.isHalted h.status

/-! ## One step -/

/-- Executing an instruction on both sides. -/
theorem Alike.proceed (hS : Core.Hides S) {t t' : Observed Machine}
    (h : t.value.Alike S t'.value) (hrun : t.value.status = .running)
    (hstep : Core.StepsAlike S t.value.keypad.snapshot t.value.core t'.value.core) :
    (proceed t).result = (proceed t').result ∧
      (proceed t).machine.Alike S (proceed t').machine := by
  obtain ⟨houtcome, hcore⟩ := hstep
  have hrun' : t'.value.status = .running := h.status ▸ hrun
  cases hs : t.value.core.step t.value.keypad.snapshot with
  | mk outcome c =>
  cases hs' : t'.value.core.step t'.value.keypad.snapshot with
  | mk outcome' c' =>
  have hkeys := h.keys
  rw [hs, hkeys, hs'] at houtcome hcore
  obtain rfl : outcome = outcome' := houtcome
  have hc : S c c' := hcore
  cases outcome with
  | ok d =>
    obtain ⟨hm, hr⟩ := proceed_of_completed hrun hs
    obtain ⟨hm', hr'⟩ := proceed_of_completed hrun' hs'
    rw [hm, hm', hr, hr', hS.verdict hc, hS.waiting hc]
    exact ⟨rfl, hc, hkeys, rfl, h.program, congrArg (· + 1) h.steps⟩
  | error s =>
    cases s with
    | fault f =>
      obtain ⟨hm, hr⟩ := proceed_of_fault hrun hs
      obtain ⟨hm', hr'⟩ := proceed_of_fault hrun' hs'
      rw [hm, hm', hr, hr']
      exact ⟨rfl, hc, hkeys, rfl, h.program, h.steps⟩
    | _ =>
      obtain ⟨hm, hr⟩ := proceed_of_stop (by simp) hs
      obtain ⟨hm', hr'⟩ := proceed_of_stop (by simp) hs'
      rw [hm, hm', hr, hr']
      exact ⟨rfl, hc, hkeys, h.status, h.program, h.steps⟩

/-- **One step of both sides**, whose clocks need not agree. A halted machine takes none. -/
theorem Alike.stepAt (hS : Core.Hides S) (h : m.Alike S m') {delay sound delay' sound' : Float}
    (hstep : m.status = .running →
      S (m.tickAt delay sound).value.core (m'.tickAt delay' sound').value.core ∧
        Core.StepsAlike S m.keypad.snapshot (m.tickAt delay sound).value.core
          (m'.tickAt delay' sound').value.core) :
    (m.stepAt delay sound).result = (m'.stepAt delay' sound').result ∧
      (m.stepAt delay sound).machine.Alike S (m'.stepAt delay' sound').machine := by
  cases hstatus : m.status with
  | halted cause =>
    have hstatus' : m'.status = .halted cause := h.status ▸ hstatus
    rw [stepAt_of_halted (isHalted_of_status hstatus),
      stepAt_of_halted (isHalted_of_status hstatus'), h.status]
    exact ⟨rfl, h⟩
  | running =>
    obtain ⟨hcore, hboth⟩ := hstep hstatus
    have hticked : (m.tickAt delay sound).value.Alike S (m'.tickAt delay' sound').value :=
      ⟨hcore, h.keys, h.status, h.program, h.steps⟩
    rw [stepAt_of_running hstatus, stepAt_of_running (h.status ▸ hstatus)]
    exact hticked.proceed hS hstatus hboth

end Machine

/-! ## Everything that a host does -/

/-- A relation of processors that is kept by whatever happens to both of them: by looking at one
clock, by a step with the same keys, by a restart with one program and by a write to memory. -/
structure Core.Congruence (S : Core → Core → Prop) : Prop extends Core.Hides S where
  tick : ∀ {c c'}, S c c' → ∀ delay sound,
    S { c with timers := c.timers.tickAt delay sound }
      { c' with timers := c'.timers.tickAt delay sound }
  step : ∀ {c c'}, S c c' → ∀ keys, Core.StepsAlike S keys c c'
  start : ∀ {c c'}, S c c' → ∀ program delay sound,
    S (.start program (c.timers.resetAt delay sound) c.random)
      (.start program (c'.timers.resetAt delay sound) c'.random)
  memory : ∀ {c c'}, S c c' → c.memory = c'.memory
  put : ∀ {c c'}, S c c' → ∀ memory, S { c with memory := memory } { c' with memory := memory }

namespace Machine

variable {S : Core → Core → Prop} {m m' : Machine}

/-- They step alike. -/
theorem Alike.stepOn (hS : Core.Congruence S) (h : m.Alike S m') (clock : Clock) :
    (m.stepOn clock).result = (m'.stepOn clock).result ∧
      (m.stepOn clock).machine.Alike S (m'.stepOn clock).machine := by
  refine h.stepAt hS.toHides fun _ => ?_
  have hticked := hS.tick h.core (clock 0) (clock 1)
  exact ⟨hticked, hS.step hticked _⟩

/-- A run of both sides takes as many steps. -/
theorem Alike.runStepsOn (hS : Core.Congruence S) (h : m.Alike S m') (clock : Clock)
    (limit : Nat) :
    (runStepsOn limit clock m).taken = (runStepsOn limit clock m').taken ∧
      (runStepsOn limit clock m).machine.Alike S (runStepsOn limit clock m').machine := by
  induction limit generalizing m m' clock with
  | zero => exact ⟨rfl, h⟩
  | succ limit ih =>
    obtain ⟨hresult, hnext⟩ := h.stepOn hS clock
    unfold Machine.runStepsOn
    rw [← h.isHalted_eq]
    split
    · exact ⟨rfl, h⟩
    · dsimp only
      rw [← hresult]
      cases (m.stepOn clock).result with
      | error e => exact ⟨rfl, hnext⟩
      | ok r =>
        obtain ⟨htaken, hrest⟩ := ih hnext clock.later
        exact ⟨congrArg (Except.map (· + 1)) htaken, hrest⟩

/-- They restart alike where their starts are. -/
theorem Alike.restart (h : m.Alike S m') {timers timers' : Timers Float}
    (hstart : S (.start m.program timers m.core.random)
      (.start m.program timers' m'.core.random)) :
    (m.restart timers).value.Alike S (m'.restart timers').value := by
  refine ⟨?_, h.keys, rfl, h.program, rfl⟩
  show S (.start m.program timers m.core.random) (.start m'.program timers' m'.core.random)
  rw [← h.program]
  exact hstart

theorem Alike.stop (h : m.Alike S m') (cause : Cause) :
    (m.stop cause).value.Alike S (m'.stop cause).value := by
  unfold Machine.stop
  rw [← h.isHalted_eq]
  split
  · exact h
  · exact ⟨h.core, h.keys, rfl, h.program, h.steps⟩

/-- They install a program alike where their starts are. -/
theorem Alike.install (h : m.Alike S m') {timers timers' : Timers Float} (program : List UInt8)
    (hstart : ∀ kept, S (.start kept timers m.core.random) (.start kept timers' m'.core.random)) :
    (m.install timers program).value.2 = (m'.install timers' program).value.2 ∧
      (m.install timers program).value.1.Alike S (m'.install timers' program).value.1 := by
  have hwith : ∀ kept : List UInt8,
      ({ m with program := kept }.restart timers).value.Alike S
        ({ m' with program := kept }.restart timers').value :=
    fun kept => ⟨hstart kept, h.keys, rfl, rfl, rfl⟩
  unfold Machine.install
  split
  · exact ⟨rfl, (hwith []).stop _⟩
  · exact ⟨rfl, hwith program⟩

/-- They take a changed memory alike. -/
theorem Alike.putMemory (hS : Core.Congruence S) (h : m.Alike S m')
    (attempt : Except Fault Ram) :
    (m.putMemory attempt).answer = (m'.putMemory attempt).answer ∧
      (m.putMemory attempt).machine.Alike S (m'.putMemory attempt).machine := by
  cases attempt with
  | ok memory => exact ⟨rfl, hS.put h.core memory, h.keys, h.status, h.program, h.steps⟩
  | error f => exact ⟨rfl, h⟩

/-- **Both sides give the same answer and stay alike**, whatever is done with them short of using
their keypads. -/
theorem Alike.respond (hS : Core.Congruence S) (h : m.Alike S m') (clock : Clock) {a : Action}
    (ha : a.usesKeypad = false) :
    (m.respond clock a).answer = (m'.respond clock a).answer ∧
      (m.respond clock a).machine.Alike S (m'.respond clock a).machine := by
  cases a with
  | load program =>
    obtain ⟨hresult, hnext⟩ :=
      h.install program fun kept => hS.start h.core kept (clock 0) (clock 1)
    exact ⟨congrArg Answer.loaded hresult, hnext⟩
  | reset => exact ⟨rfl, h.restart (hS.start h.core _ (clock 0) (clock 1))⟩
  | step =>
    obtain ⟨hresult, hnext⟩ := h.stepOn hS clock
    exact ⟨congrArg Answer.stepped hresult, hnext⟩
  | run limit =>
    obtain ⟨htaken, hnext⟩ := h.runStepsOn hS clock limit.toNat
    exact ⟨congrArg Answer.ran htaken, hnext⟩
  | halt reason => exact ⟨rfl, h.stop _⟩
  | press | release | pressKey | releaseKey | releaseAll => cases ha
  | poke address bytes =>
    have hwrite := h.putMemory hS (m.core.memory.write address bytes)
    show (m.putMemory _).answer = (m'.putMemory (m'.core.memory.write address bytes)).answer ∧
      (m.putMemory _).machine.Alike S (m'.putMemory (m'.core.memory.write address bytes)).machine
    rw [← hS.memory h.core]
    exact hwrite

end Machine

end SuperChip
