import SuperChip.Proofs.Machine.Moment
import SuperChip.Proofs.Trace.Ring

/-!
# What a trace tells

A machine records every step that it takes while it runs, and nothing else. What a trace holds at
the end of a script are the records of the latest of these steps, and each of them is true.

- `Machine.Moment.entry`: the record of a step; `Moment.Tells`: an entry tells the truth about a
  step.
- `Moment.Ends.trace_after`, `Moment.Ends.tells_entry`: **each step is recorded once, truthfully**.
- `latest_tells_steps`: **the entries of a trace are the records of the latest steps**.

About `Machine._record` and `TraceRecorder.record_step`.
-/

namespace SuperChip

/-! ## Numbers that fit into their columns -/

theorem toNat_ofInt_word {n : Int} (h₀ : 0 ≤ n) (h : n < 0x10000) :
    ((UInt16.ofInt n).toNat : Int) = n := by
  have hmod : n % 2 ^ 16 = n := Int.emod_eq_of_lt h₀ h
  rw [UInt16.ofInt, hmod, UInt16.toNat_ofNat_of_lt' (by simp only [UInt16.size]; omega)]
  exact Int.toNat_of_nonneg h₀

namespace Machine

theorem toList_of_initialTrace {room : Room} {capacity : Int} {printed : Bool} {t : Trace}
    (h : initialTrace room capacity printed = .ok (some t)) : t.toList = [] := by
  unfold initialTrace at h
  generalize (if (capacity ≤ 0 && printed) = true then printedTraceCapacity
    else capacity) = kept at h
  by_cases hkept : kept ≤ 0
  · rw [if_pos hkept] at h
    cases h
  · rw [if_neg hkept] at h
    cases ht : Trace.ofCapacity? room kept with
    | error e =>
      rw [ht] at h
      cases h
    | ok t' =>
      rw [ht] at h
      cases h
      exact Trace.toList_of_ofCapacity? ht

/-! ## The record of a step -/

namespace Moment

/-- The record of a step: its registers at the beginning and its timers and flags at the end. -/
def entry (q : Moment) : Trace.Entry :=
  q.after.entry q.before.core.registers q.completed? q.fault?

/-- An entry tells the truth about a step: the registers before it, the word that was at the program
counter if the instruction there was completed, the timers and flags after it, and the fault that
it met. -/
structure Tells (q : Moment) (e : Trace.Entry) : Prop where
  pc : (e.pc.toNat : Int) = q.before.core.registers.pc
  i : e.i = q.before.core.registers.i
  sp : (e.sp.toNat : Int) = q.before.core.registers.sp
  v : e.v = q.before.core.registers.v.toList
  completed : ∀ d, q.completed? = some d →
    q.before.core.registers.pc ≤ 0xFFE ∧ e.word = some q.before.core.word ∧ e.text = d.text
  failed : q.completed? = none → e.word = none ∧ e.text = ""
  delay : e.delay = q.after.core.timers.delay.value
  sound : e.sound = q.after.core.timers.sound.value
  waiting : e.waiting = q.after.core.waiting
  halted : e.halted = q.after.isHalted
  note : e.note = (q.fault?.map Fault.name).getD ""

variable {q : Moment}

/-- A step is recorded once, however it ends. -/
theorem Ends.trace_after (h : q.Ends) : q.after.trace = q.before.trace.map (·.record q.entry) := by
  cases h with
  | failed f h =>
    rw [entry, h.completed?_eq_none, h.fault?_eq_some, h.after_eq]
    rfl
  | completed d c h =>
    rw [entry, h.completed?_eq_some, h.fault?_eq, h.after_eq]
    rfl

/-- **The record of a step is true.** The columns have room for the registers of a machine that
came out of its setup. -/
theorem Ends.tells_entry (h : q.Ends) (hrange : q.before.core.InRange)
    (hpc : q.before.core.registers.pc < 0x10000) : q.Tells q.entry where
  pc := toNat_ofInt_word hrange.pc_nonneg hpc
  i := rfl
  sp := by
    have hle := hrange.sp_le
    exact (toNat_ofInt_byte _).trans (Int.emod_eq_of_lt hrange.sp_nonneg (by omega))
  v := rfl
  completed d hd := by
    cases h with
    | failed f h => cases hd.symm.trans h.completed?_eq_none
    | completed d' c h =>
      cases hd.symm.trans h.completed?_eq_some
      have hword := Decoded.word_of_ofWord (Core.ofWord_of_peek hrange h.peek)
      refine ⟨Core.pc_le_of_peek h.peek, ?_, ?_⟩
      · rw [← hword, entry, hd]
        rfl
      · rw [entry, hd]
        rfl
  failed hd := by
    rw [entry, hd]
    exact ⟨rfl, rfl⟩
  delay := rfl
  sound := rfl
  waiting := rfl
  halted := rfl
  note := rfl

end Moment

/-! ## Whole scripts -/

/-- **The entries of a trace are the records of the latest steps** that the machine took while it
ran, as many as the trace has room for and in their order, and each of them is true. Neither a
restart nor anything else that a host does takes an entry away. -/
theorem latest_tells_steps {setup : Setup} {clock : Clock} {printed : Bool} {o : Observed Machine}
    (hon : switchOn setup clock printed = .ok o) {t : Trace} (ht : o.value.trace = some t)
    (history : List (Clock × Action)) :
    (∃ t', (o.value.after history).trace = some t' ∧ t'.capacity = t.capacity ∧
      t'.latest none = ((o.value.moments history).map Moment.entry).drop
        ((o.value.moments history).length - t.capacity)) ∧
    ∀ q ∈ o.value.moments history, q.before.status = .running ∧ q.Tells q.entry := by
  let P (m : Machine) (past : List Moment) : Prop :=
    MadeFrom setup m ∧
      (∃ t', m.trace = some t' ∧ t'.capacity = t.capacity ∧
        t'.HoldsLatest (past.map Moment.entry)) ∧
      ∀ q ∈ past, q.before.status = .running ∧ q.Tells q.entry
  suffices hP : P (o.value.after history) ([] ++ o.value.moments history) by
    obtain ⟨-, ⟨t', hkept, hcapacity, hlatest⟩, htells⟩ := hP
    rw [Trace.HoldsLatest, List.length_map, hcapacity] at hlatest
    exact ⟨⟨t', hkept, hcapacity, hlatest⟩, htells⟩
  have hinitial : t.HoldsLatest [] := by
    obtain ⟨-, trace, htrace, rfl⟩ := (switchOn_eq_ok_iff clock).1 hon
    cases ht
    exact (toList_of_initialTrace htrace).trans List.drop_nil.symm
  have hstart : P o.value [] := ⟨.switchedOn hon, ⟨t, ht, rfl, hinitial⟩, by simp⟩
  refine moments_preserve (P := P) (A := fun _ => True) ?_ ?_ hstart (by simp)
  · rintro past q hrun ⟨hm, ⟨t', hkept, hcapacity, hlatest⟩, htells⟩
    have hrange := hm.keeps.core.toInRange
    have hends := q.ends hrange hrun
    refine ⟨hm.performed q.clock .step, ⟨t'.record q.entry, ?_, ?_, ?_⟩, ?_⟩
    · rw [hends.trace_after, hkept]
      rfl
    · rw [Trace.capacity_record, hcapacity]
    · rw [List.map_append]
      exact hlatest.record q.entry
    · intro p hp
      obtain hp | hp := List.mem_append.1 hp
      · exact htells p hp
      · obtain rfl := List.mem_singleton.1 hp
        exact ⟨hrun, hends.tells_entry hrange (by have := hm.keeps.pc_le hrun; omega)⟩
  · rintro m past clock a - hother ⟨hm, ⟨t', hkept, hcapacity, hlatest⟩, htells⟩
    refine ⟨hm.performed clock a, ⟨t', ?_, hcapacity, hlatest⟩, htells⟩
    rw [trace_respond clock hother, hkept]

/-- A trace with room for one entry, which is that of the only step that a machine with a faulty
program takes, although it is stepped twice and then put back to the start. -/
theorem latest_tells_only_step :
    let history : List (Clock × Action) :=
      [(.still 1, .load [0x00, 0xEE]), (.still 2, .step), (.still 3, .step), (.still 4, .reset)]
    ∃ o t, switchOn { sampleSetup with traceCapacity := 1 } (.still 0) false = .ok o ∧
      o.value.trace = some t ∧
      ∃ t' q, (o.value.after history).trace = some t' ∧ o.value.moments history = [q] ∧
        t'.latest none = [q.entry] ∧ q.Tells q.entry := by
  intro history
  let t : Trace := .empty 1 (by decide)
  obtain ⟨o, hon, ht⟩ : ∃ o, switchOn { sampleSetup with traceCapacity := 1 } (.still 0) false =
      .ok o ∧ o.value.trace = some t :=
    ⟨_, (switchOn_eq_ok_iff _).2 ⟨by decide, some t, rfl, rfl⟩, rfl⟩
  obtain ⟨⟨t', hkept, -, hlatest⟩, htells⟩ := latest_tells_steps hon ht history
  obtain ⟨m, hm, hstarts, hloaded⟩ : ∃ m, MadeFrom { sampleSetup with traceCapacity := 1 } m ∧
      m.Starts [0x00, 0xEE] ∧ o.value.moments history =
        m.moments [(.still 2, .step), (.still 3, .step), (.still 4, .reset)] := by
    refine ⟨_, .performed (.switchedOn hon) (.still 1) (.load [0x00, 0xEE]),
      starts_loadOn o.value (.still 1) (by decide), ?_⟩
    show o.value.moments (_ :: _) = _
    rw [moments, momentsOf_eq_nil rfl, List.nil_append]
  let q : Moment := ⟨m, .still 2⟩
  have hrun := hstarts.running
  have hpeek : m.core.peek = .ok ⟨0x00EE, .ret⟩ := hstarts.peek_eq
  have hsp : m.core.registers.sp = 0 := by
    rw [hstarts.registers_eq]
    rfl
  -- there is nothing on the stack to return to
  have hhalted : q.after.isHalted := by
    cases q.ends hm.keeps.core.toInRange hrun with
    | failed f h =>
      rw [h.after_eq]
      rfl
    | completed d c h =>
      cases hpeek.symm.trans h.peek
      have hnext := (hm.performed (.still 2) .step).keeps.core.sp_nonneg
      rw [show (m.respond (.still 2) .step).machine.core = c from h.core_after,
        h.touches.sp] at hnext
      exact absurd hnext (by show ¬ 0 ≤ m.core.registers.sp + -1; rw [hsp]; decide)
  have hmoments : o.value.moments history = [q] := by
    rw [hloaded]
    show m.momentsOf (.still 2) .step ++ (q.after.momentsOf (.still 3) .step ++ []) = [q]
    rw [momentsOf_of_running hrun, momentsOf_of_halted hhalted]
    rfl
  refine ⟨o, _, hon, ht, t', q, hkept, hmoments, ?_, ?_⟩
  · rw [hlatest, hmoments]
    rfl
  · exact (htells q (by rw [hmoments]; exact .head _)).2

end Machine

end SuperChip
