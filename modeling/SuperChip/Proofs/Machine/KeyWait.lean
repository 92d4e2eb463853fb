import SuperChip.Proofs.Machine.Moment

/-!
# Waiting for a key

The instruction that waits for a key is executed anew in every step until one of them finds a key
down. Only this instruction notes a wait or ends one, so that a machine which waits is always about
to execute it.

- `Keypad.IsLowest`: the lowest of the keys that are down; `firstPressed_snapshot_eq_none_iff` and
  `firstPressed_snapshot_eq_some_iff` are what a program sees of the keypad.
- `Core.WaitsAtKey`: a processor waits at such an instruction only; `waitsAtKey_after` is a whole
  script.
- `Machine.Waits`: a machine that waits for a key.
- `Machine.Idles`: nothing but the timers, the trace and the keypad changed between two machines;
  `Waits.idles` is a step that finds no key down, `Waits.idles_after` a whole script of them.
- `Machine.TakesKey`: what the step does that ends a wait; `Waits.takesKey`: **the first step that
  finds a key down is one**.
- `waits_until_key`: **a wait goes on for as long as no key is down, and the first step that finds
  one down takes it**.

About `op_ld_vx_k` and `first_pressed`.
-/

namespace SuperChip

/-! ## The lowest key that is down -/

namespace Keypad

variable (k : Keypad)

/-- A key is the lowest of those that are down. -/
def IsLowest (key : Fin 16) : Prop := k.isDown key = true ∧ ∀ j < key, k.isDown j = false

/-- No key is found if none is down. -/
theorem firstPressed_snapshot_eq_none_iff :
    firstPressed k.snapshot.toList = none ↔ ∀ key, k.isDown key = false := by
  rw [firstPressed, List.findIdx?_eq_none_iff]
  simp [snapshot]

/-- The key that is found is the lowest that is down. -/
theorem firstPressed_snapshot_eq_some_iff (key : Fin 16) :
    firstPressed k.snapshot.toList = some key.val ↔ k.IsLowest key := by
  rw [firstPressed, List.findIdx?_eq_some_iff_getElem]
  simp only [snapshot, Vector.toList_ofFn, List.length_ofFn, List.getElem_ofFn, id, IsLowest]
  constructor
  · rintro ⟨_, hdown, hbelow⟩
    exact ⟨hdown, fun j hj => by simpa using hbelow j.val hj⟩
  · rintro ⟨hdown, hbelow⟩
    exact ⟨key.isLt, hdown, fun j hj => by simpa using hbelow ⟨j, Nat.lt_trans hj key.isLt⟩ hj⟩

/-- There is only one such key. -/
theorem IsLowest.eq {k : Keypad} {key key' : Fin 16} (h : k.IsLowest key) (h' : k.IsLowest key') :
    key' = key := by
  rw [← firstPressed_snapshot_eq_some_iff] at h h'
  exact Fin.ext (Option.some.inj (h'.symm.trans h))

/-- There is one as soon as any key is down. -/
theorem exists_isLowest (h : ¬ ∀ key, k.isDown key = false) : ∃ key, k.IsLowest key := by
  rw [← firstPressed_snapshot_eq_none_iff] at h
  obtain ⟨n, hn⟩ := Option.ne_none_iff_exists'.1 h
  obtain ⟨hlt, -⟩ := List.findIdx?_eq_some_iff_getElem.1 hn
  have hkey : n < 16 := by simpa using hlt
  exact ⟨⟨n, hkey⟩, (k.firstPressed_snapshot_eq_some_iff ⟨n, hkey⟩).1 hn⟩

end Keypad

/-! ## Where a processor waits -/

namespace Core

variable {c : Core} {d : Decoded} {x : Register}

/-- A processor waits only at an instruction that waits for a key. -/
def WaitsAtKey (c : Core) : Prop :=
  c.waiting = true → ∃ d x, c.peek = .ok d ∧ d.instruction = .ldKey x

theorem waitsAtKey_start (program : List UInt8) (timers : Timers Float) (random : RandomSource) :
    (start program timers random).WaitsAtKey := nofun

/-- Waiting for a key meets no fault. -/
theorem step_of_ldKey (h : c.InRange) (keys : Keys) (hpeek : c.peek = .ok d)
    (hd : d.instruction = .ldKey x) : c.step keys = (.ok d, c.effect keys (.ldKey x)) := by
  simp only [step_eq h, hpeek, hd, Instruction.refusal?]

/-- While no key is down waiting only notes that there is a wait. -/
theorem effect_ldKey_of_none {keys : Keys} (hkeys : firstPressed keys.toList = none) :
    c.effect keys (.ldKey x) = { c with waiting := true } := by
  rw [effect_ldKey, awaitedRegisters, hkeys]
  rfl

/-- The first key that is down is put into the register. -/
theorem effect_ldKey_of_some {keys : Keys} {key : Nat}
    (hkeys : firstPressed keys.toList = some key) :
    c.effect keys (.ldKey x) =
      { c with
        registers := (c.registers.set x (UInt8.ofNat key)).advance false
        waiting := false } := by
  rw [effect_ldKey, awaitedRegisters, hkeys]
  rfl

end Core

namespace Machine

variable {m m' : Machine} {q : Moment} {d : Decoded} {c : Core} {x : Register}

/-- A step that comes to a wait completes it, whether a key is down or not. -/
theorem Moment.completed_of_ldKey (hrange : q.before.core.InRange)
    (hrun : q.before.status = .running) (hpeek : q.before.core.peek = .ok d)
    (hd : d.instruction = .ldKey x) :
    q.Completed d (q.ticked.effect q.before.keypad.snapshot (.ldKey x)) :=
  completed_of_step hrange hrun (Core.step_of_ldKey (inRange_ticked hrange) _ hpeek hd)

/-- **A step leaves the processor waiting at such an instruction only.** -/
theorem Moment.waitsAtKey_after (hrange : q.before.core.InRange)
    (hrun : q.before.status = .running) (h : q.before.core.WaitsAtKey) :
    q.after.core.WaitsAtKey := by
  cases q.ends hrange hrun with
  | failed f hf =>
    rw [hf.core_after]
    exact h
  | completed d c hc =>
    by_cases hd : ∃ x, d.instruction = .ldKey x
    · obtain ⟨x, hd⟩ := hd
      rw [(completed_of_ldKey hrange hrun hc.peek hd).core_after]
      intro hwaiting
      cases hkeys : firstPressed q.before.keypad.snapshot.toList with
      | none =>
        rw [Core.effect_ldKey_of_none hkeys]
        exact ⟨d, x, hc.peek, hd⟩
      | some key =>
        rw [Core.effect_ldKey_of_some hkeys] at hwaiting
        cases hwaiting
    · -- another instruction cannot have been executed while the processor waited
      rw [hc.core_after]
      intro hwaiting
      have hbefore : q.before.core.waiting = true := by
        rw [← hwaiting]
        exact (hc.touches.waiting fun x hx => hd ⟨x, hx⟩).symm
      obtain ⟨d', x, hpeek, hd'⟩ := h hbefore
      cases hc.peek.symm.trans hpeek
      exact absurd ⟨x, hd'⟩ hd

/-- Nor does anything else that a host does, as long as it does not write to the memory. -/
theorem waitsAtKey_respond (h : m.core.WaitsAtKey) (clock : Clock) {a : Action}
    (hsteps : a.takesSteps = false) (hpokes : a.pokes = false) :
    (m.respond clock a).machine.core.WaitsAtKey := by
  cases hrestarts : a.restarts with
  | true =>
    obtain ⟨program, timers, random, hcore⟩ :=
      exists_core_respond_of_restarts (m := m) clock hrestarts
    rw [hcore]
    exact Core.waitsAtKey_start program timers random
  | false => rwa [core_respond clock hsteps hrestarts hpokes]

/-- The wait is at an instruction that waits, as long as no host writes into the memory. -/
theorem waitsAtKey_after {setup : Setup} (hm : MadeFrom setup m) (h : m.core.WaitsAtKey)
    {history : List (Clock × Action)} (hkept : ∀ turn ∈ history, turn.2.pokes = false) :
    (m.after history).core.WaitsAtKey := by
  refine hm.after_preserve (P := fun n => n.core.WaitsAtKey) (A := fun a => a.pokes = false)
    ?_ ?_ h hkept
  · intro q hn hrun hwaits
    exact q.waitsAtKey_after hn.keeps.core.toInRange hrun hwaits
  · intro n clock a ha hother hwaits
    exact waitsAtKey_respond hwaits clock hother ha

/-! ## As long as no key is down -/

/-- No key is down in a step. -/
def Moment.Silent (q : Moment) : Prop := ∀ key, q.before.keypad.isDown key = false

/-- A machine has taken so many steps more than another one, and nothing but the timers, the trace
and the keypad has changed in them. -/
structure Idles (m m' : Machine) (count : Nat) : Prop where
  core : m'.core = { m.core with timers := m'.core.timers }
  status : m'.status = m.status
  program : m'.program = m.program
  steps : m'.steps = m.steps + count

theorem Idles.refl (m : Machine) : m.Idles m 0 := ⟨rfl, rfl, rfl, rfl⟩

variable {count : Nat}

theorem Idles.inRange (h : m.Idles m' count) (hrange : m.core.InRange) : m'.core.InRange := by
  rw [h.core]
  exact ⟨hrange.pc_nonneg, hrange.sp_nonneg, hrange.sp_le, hrange.screen⟩

theorem Idles.peek_eq (h : m.Idles m' count) : m'.core.peek = m.core.peek := by
  rw [h.core]
  rfl

/-- A machine that waits for a key. -/
structure Waits (m : Machine) (d : Decoded) (x : Register) : Prop extends m.core.InRange where
  running : m.status = .running
  not_exited : m.core.exited = false
  waiting : m.core.waiting = true
  peek : m.core.peek = .ok d
  instruction : d.instruction = .ldKey x

/-- A step that comes to a wait and finds no key down notes the wait, and the machine goes on. -/
theorem Moment.completed_of_silent (hrange : q.before.core.InRange)
    (hrun : q.before.status = .running) (hexited : q.before.core.exited = false)
    (hpeek : q.before.core.peek = .ok d) (hd : d.instruction = .ldKey x) (hsilent : q.Silent) :
    q.Completed d { q.ticked with waiting := true } ∧
      Core.verdict { q.ticked with waiting := true } = .running := by
  have hkeys := (Keypad.firstPressed_snapshot_eq_none_iff _).2 hsilent
  have hcompleted := completed_of_ldKey hrange hrun hpeek hd
  rw [Core.effect_ldKey_of_none hkeys] at hcompleted
  have hpc := Core.pc_le_of_peek hpeek
  exact ⟨hcompleted, Core.verdict_eq_running_iff.2 ⟨hexited, Int.le_trans hpc (by decide)⟩⟩

/-- A machine that comes to a wait and finds no key down begins to wait. -/
theorem Moment.waits_after {setup : Setup} (hm : MadeFrom setup q.before)
    (hrun : q.before.status = .running) (hpeek : q.before.core.peek = .ok d)
    (hd : d.instruction = .ldKey x) (hsilent : q.Silent) : q.after.Waits d x := by
  have hexited := hm.keeps.not_exited hrun
  obtain ⟨hcompleted, hverdict⟩ :=
    completed_of_silent hm.keeps.core.toInRange hrun hexited hpeek hd hsilent
  refine ⟨(hm.performed q.clock .step).keeps.core.toInRange, ?_, ?_, ?_, ?_, hd⟩
  · rw [hcompleted.status_after, hverdict]
  · rw [hcompleted.core_after]
    exact hexited
  · rw [hcompleted.core_after]
  · rw [hcompleted.core_after]
    exact hpeek

theorem Idles.waits (h : m.Idles m' count) (hw : m.Waits d x) : m'.Waits d x where
  toInRange := h.inRange hw.toInRange
  running := h.status.trans hw.running
  not_exited := by rw [h.core, hw.not_exited]
  waiting := by rw [h.core, hw.waiting]
  peek := h.peek_eq.trans hw.peek
  instruction := hw.instruction

/-- **A step that finds no key down leaves a machine waiting.** -/
theorem Waits.idles (hw : q.before.Waits d x) (hsilent : q.Silent) :
    q.before.Idles q.after 1 ∧ q.result = .ok ⟨.running, some d, true, none⟩ := by
  obtain ⟨hcompleted, hverdict⟩ := Moment.completed_of_silent hw.toInRange hw.running hw.not_exited
    hw.peek hw.instruction hsilent
  have hcore : { q.ticked with waiting := true } =
      { q.before.core with timers := q.ticked.timers } := by
    rw [← hw.waiting]
    rfl
  refine ⟨⟨?_, ?_, ?_, ?_⟩, ?_⟩
  · rw [hcompleted.core_after, hcore]
  · rw [hcompleted.status_after, hverdict, hw.running]
  · rw [hcompleted.after_eq]
    rfl
  · rw [hcompleted.after_eq]
    rfl
  · rw [hcompleted.result_eq, hverdict]
    rfl

/-- A silent step leaves a waiting machine idle. -/
theorem Idles.step (h : m.Idles q.before count) (hw : m.Waits d x) (hsilent : q.Silent) :
    m.Idles q.after (count + 1) := by
  obtain ⟨hstep, -⟩ := (h.waits hw).idles hsilent
  refine ⟨?_, hstep.status.trans h.status, hstep.program.trans h.program, ?_⟩
  · rw [hstep.core, h.core]
  · rw [hstep.steps, h.steps, Nat.add_assoc]

/-! ## When a key is down -/

/-- What the step does that takes a key. -/
structure TakesKey (q : Moment) (d : Decoded) (x : Register) (key : Fin 16) : Prop where
  core : q.after.core =
    { q.before.core with
      timers := q.ticked.timers
      registers := (q.before.core.registers.set x (UInt8.ofNat key.val)).advance false
      waiting := false }
  steps : q.after.steps = q.before.steps + 1
  program : q.after.program = q.before.program
  running : q.before.core.registers.pc ≠ 0xFFE →
    q.after.status = .running ∧ q.result = .ok ⟨.running, some d, false, none⟩
  halted : q.before.core.registers.pc = 0xFFE →
    q.after.status = .halted (.fault (.outOfBounds 0x1000 2)) ∧
      q.result = .ok ⟨q.after.status, some d, false, some (.outOfBounds 0x1000 2)⟩

/-- **A step that finds a key down takes the lowest one.** -/
theorem Waits.takesKey (hw : q.before.Waits d x) {key : Fin 16}
    (hkey : q.before.keypad.IsLowest key) : TakesKey q d x key := by
  have hkeys := (Keypad.firstPressed_snapshot_eq_some_iff _ _).2 hkey
  have hcompleted := Moment.completed_of_ldKey hw.toInRange hw.running hw.peek hw.instruction
  rw [Core.effect_ldKey_of_some hkeys] at hcompleted
  have hpc := Core.pc_le_of_peek hw.peek
  generalize hc : ({ q.ticked with
    registers := (q.ticked.registers.set x (UInt8.ofNat key.val)).advance false
    waiting := false } : Core) = c at hcompleted
  have hnext : c.registers.pc = q.before.core.registers.pc + 2 := by
    rw [← hc]
    rfl
  have hexited : c.exited = false := by
    rw [← hc]
    exact hw.not_exited
  have hwaiting : c.waiting = false := by rw [← hc]
  refine ⟨?_, ?_, ?_, fun hne => ?_, fun heq => ?_⟩
  · rw [hcompleted.core_after, ← hc]
    rfl
  · rw [hcompleted.after_eq]
    rfl
  · rw [hcompleted.after_eq]
    rfl
  · have hverdict : c.verdict = .running :=
      Core.verdict_eq_running_iff.2 ⟨hexited, by omega⟩
    rw [hcompleted.status_after, hcompleted.result_eq, hverdict, hwaiting]
    exact ⟨rfl, rfl⟩
  · have hend : c.registers.pc = 0x1000 := by omega
    have hverdict := Core.verdict_of_beyond hexited (by omega)
    rw [hend] at hverdict
    rw [hcompleted.status_after, hcompleted.result_eq, hverdict, hwaiting]
    exact ⟨rfl, rfl⟩

/-! ## Whole scripts -/

/-- The actions that a machine can attend to while it waits: it takes steps, or its keypad is
used. -/
def Attends (a : Action) : Prop := a.takesSteps = true ∨ a.usesKeypad = true

/-- As long as its moments are silent a waiting machine idles, for any number of steps. -/
theorem Waits.idles_after (hw : m.Waits d x) {history : List (Clock × Action)}
    (hattends : ∀ turn ∈ history, Attends turn.2) (hsilent : ∀ p ∈ m.moments history, p.Silent) :
    m.Idles (m.after history) (m.moments history).length ∧
      ∀ p ∈ m.moments history, p.result = .ok ⟨.running, some d, true, none⟩ := by
  let P (n : Machine) (past : List Moment) : Prop :=
    (∀ p ∈ past, p.Silent) →
      m.Idles n past.length ∧ ∀ p ∈ past, p.result = .ok ⟨.running, some d, true, none⟩
  suffices hP : P (m.after history) ([] ++ m.moments history) from hP hsilent
  refine moments_preserve (P := P) (A := Attends) ?_ ?_ (fun _ => ⟨.refl m, by simp⟩) hattends
  · intro past q hrun hpast hsilent
    obtain ⟨hidles, htold⟩ := hpast fun p hp => hsilent p (List.mem_append_left _ hp)
    have hq := hsilent q (List.mem_append_right _ (.head _))
    rw [List.length_append]
    refine ⟨hidles.step hw hq, fun p hp => ?_⟩
    obtain hp | hp := List.mem_append.1 hp
    · exact htold p hp
    · obtain rfl := List.mem_singleton.1 hp
      exact ((hidles.waits hw).idles hq).2
  · intro n past clock a ha hother hpast hsilent
    obtain ⟨hidles, htold⟩ := hpast hsilent
    -- what is left is the use of the keypad
    obtain hsteps | hkeypad := ha
    · cases hsteps.symm.trans hother
    · obtain ⟨keypad, hrespond⟩ := exists_respond_eq_of_usesKeypad (m := n) clock hkeypad
      rw [hrespond]
      exact ⟨⟨hidles.core, hidles.status, hidles.program, hidles.steps⟩, htold⟩

/-- What becomes of a wait, whatever steps the machine takes and whoever uses the keypad in
between. -/
structure AwaitsKey (m : Machine) (d : Decoded) (x : Register) : Prop where
  /-- As long as no step finds a key down, nothing happens. -/
  idles : ∀ history : List (Clock × Action), (∀ turn ∈ history, Attends turn.2) →
    (∀ p ∈ m.moments history, p.Silent) →
      m.Idles (m.after history) (m.moments history).length ∧
        ∀ p ∈ m.moments history, p.result = .ok ⟨.running, some d, true, none⟩
  /-- The first step that finds one down takes the lowest key. -/
  takes : ∀ history : List (Clock × Action), (∀ turn ∈ history, Attends turn.2) →
    ∀ past q, past ++ [q] <+: m.moments history → (∀ p ∈ past, p.Silent) → ¬ q.Silent →
      ∃ key, q.before.keypad.IsLowest key ∧ m.Idles q.before past.length ∧ TakesKey q d x key

/-- **A machine that waits is about to execute an instruction that waits for a key.** While it runs,
the steps that find no key down change nothing but the timers, the count of steps and the trace, and
the first step that finds one down puts the lowest into the register, ends the wait and goes on. -/
theorem waits_until_key {setup : Setup} {clock : Clock} {printed : Bool} {o : Observed Machine}
    (hon : switchOn setup clock printed = .ok o) {history : List (Clock × Action)}
    (hkept : ∀ turn ∈ history, turn.2.pokes = false)
    (hwaiting : (o.value.after history).core.waiting = true) :
    ∃ d x, (o.value.after history).core.peek = .ok d ∧ d.instruction = .ldKey x ∧
      ((o.value.after history).status = .running → (o.value.after history).AwaitsKey d x) := by
  have hm : MadeFrom setup o.value := .switchedOn hon
  have hstart : o.value.core.WaitsAtKey := by
    obtain ⟨-, trace, -, rfl⟩ := (switchOn_eq_ok_iff clock).1 hon
    exact Core.waitsAtKey_start _ _ _
  obtain ⟨d, x, hpeek, hd⟩ := waitsAtKey_after hm hstart hkept hwaiting
  refine ⟨d, x, hpeek, hd, fun hrun => ?_⟩
  have hkeeps := (hm.after history).keeps
  have hw : (o.value.after history).Waits d x :=
    ⟨hkeeps.core.toInRange, hrun, hkeeps.not_exited hrun, hwaiting, hpeek, hd⟩
  refine ⟨fun later hattends hsilent => hw.idles_after hattends hsilent, ?_⟩
  intro later hattends past q hprefix hsilent hdown
  obtain ⟨-, script, hscript, hbefore, hpast⟩ :=
    exists_script_of_moment (A := Attends) (.inl rfl) hattends hprefix
  subst hpast
  obtain ⟨hidles, -⟩ := hw.idles_after hscript hsilent
  rw [hbefore] at hidles
  obtain ⟨key, hkey⟩ := q.before.keypad.exists_isLowest hdown
  exact ⟨key, hkey, hidles, (hidles.waits hw).takesKey hkey⟩

/-- A program that waits for a key waits in its first step and in its second, and takes the key that
is pressed before its third. -/
theorem waits_until_key_in_sample :
    ∃ o, switchOn sampleSetup (.still 0) false = .ok o ∧
      ∃ m, o.value.after [(.still 0, .load [0xF0, 0x0A]), (.still 1, .step)] = m ∧
        m.core.waiting = true ∧ m.status = .running ∧
        m.Idles (m.after [(.still 2, .step)]) 1 ∧
        TakesKey ⟨m.after [(.still 3, .pressKey 5 "pad")], .still 4⟩ ⟨0xF00A, .ldKey 0⟩ 0 5 := by
  obtain ⟨o, hon, hloaded⟩ := exists_switchOn_sample [0xF0, 0x0A]
  obtain ⟨n, hn⟩ : ∃ n, sample [0xF0, 0x0A] = n := ⟨_, rfl⟩
  have hmade : MadeFrom sampleSetup n := hn ▸ madeFrom_sample _
  have hstarts : n.Starts [0xF0, 0x0A] := hn ▸ starts_sample (by decide)
  have hkeypad : n.keypad = .ofBindings [] := hn ▸ keypad_sample _
  rw [hn] at hloaded
  have hup : ∀ key, n.keypad.isDown key = false := by
    rw [hkeypad]
    decide
  obtain ⟨m, hm⟩ : ∃ m, n.after [(.still 1, .step)] = m := ⟨_, rfl⟩
  have hhistory : o.value.after [(.still 0, .load [0xF0, 0x0A]), (.still 1, .step)] = m := by
    rw [← hm, ← hloaded]
    exact after_append [_] [_]
  have hw : m.Waits ⟨0xF00A, .ldKey 0⟩ 0 := by
    rw [← hm]
    exact Moment.waits_after (q := ⟨n, .still 1⟩) hmade hstarts.running hstarts.peek_eq rfl hup
  have hsame : m.keypad = n.keypad := by
    rw [← hm]
    exact keypad_respond (.still 1) (a := .step) rfl
  obtain ⟨d, x, hpeek, hd, hawaits⟩ :=
    waits_until_key hon (by simp [Action.pokes]) (hhistory ▸ hw.waiting)
  rw [hhistory] at hpeek hawaits
  cases hw.peek.symm.trans hpeek
  cases hd
  have hsecond : m.moments [(.still 2, .step)] = [⟨m, .still 2⟩] := by
    rw [moments, momentsOf_of_running hw.running]
    rfl
  let q : Moment := ⟨m.after [(.still 3, .pressKey 5 "pad")], .still 4⟩
  have hthird : [] ++ [q] <+: m.moments [(.still 3, .pressKey 5 "pad"), (.still 4, .step)] := by
    have hrun : q.before.status = .running := hw.running
    rw [moments, momentsOf_eq_nil rfl]
    show [q] <+: q.before.momentsOf q.clock .step ++ []
    rw [momentsOf_of_running hrun]
    exact List.prefix_refl _
  have hlowest : q.before.keypad.IsLowest 5 := by
    show (m.keypad.hold 5 "pad").value.IsLowest 5
    rw [hsame, hkeypad]
    exact ⟨by decide, by decide⟩
  refine ⟨o, hon, m, hhistory, hw.waiting, hw.running, ?_, ?_⟩
  · have hidles := (hawaits hw.running).idles [(.still 2, .step)]
      (by simp [Attends, Action.takesSteps])
    rw [hsecond] at hidles
    exact (hidles (by simpa [Moment.Silent, hsame] using hup)).1
  · have hdown : ¬ q.Silent := fun hsilent => by cases hlowest.1.symm.trans (hsilent 5)
    obtain ⟨key, hkey, -, htakes⟩ := (hawaits hw.running).takes _
      (by simp [Attends, Action.takesSteps, Action.usesKeypad]) [] q hthird (by simp) hdown
    exact hlowest.eq hkey ▸ htakes

end Machine

end SuperChip
