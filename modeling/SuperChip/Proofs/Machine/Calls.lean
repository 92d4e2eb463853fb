import SuperChip.Proofs.Machine.Ranges

/-!
# Calls and returns

A call leaves the place behind it on the stack, and everything that is called from there on works
above it. Whatever the program does in between, whether it calls itself, jumps about or rewrites its
own code, the frame is still there when the stack pointer comes back.

- `Machine.Pending`: a machine has not yet returned from the call that another one made.
- `Pending.step`: **a step above the call leaves it pending**; `pending_after` is a whole script.
- `Machine.ReturnsFrom`: what the step does that comes back to a call.
- `Machine.Restarted`: a machine at the start of its program; `MadeFrom.exists_restart`: every
  machine was in this state once.
- `calls_nest`: **calls return behind themselves, and the stack pointer counts the open ones**.

About `op_call`, `op_ret`, `RegisterFile.push` and `pop`.
-/

namespace SuperChip

namespace Instruction

def isCall : Instruction → Bool
  | call _ => true
  | _ => false

def isReturn : Instruction → Bool
  | ret => true
  | _ => false

theorem eq_ret_of_stackShift_neg {i : Instruction} (h : i.stackShift < 0) : i = ret := by
  cases i with
  | ret => rfl
  | call target => exact absurd h (by simp [stackShift])
  | _ => exact absurd h (by simp [stackShift])

theorem stackShift_eq (i : Instruction) :
    i.stackShift = (i.isCall.toNat : Int) - i.isReturn.toNat := by
  cases i <;> rfl

end Instruction

namespace Machine

/-- Whether a step completes an instruction of a kind. -/
def Moment.completes (kind : Instruction → Bool) (q : Moment) : Bool :=
  q.completed?.any (kind ·.instruction)

/-! ## One step -/

variable {m m' : Machine} {q : Moment}

/-- A step shifts the stack pointer as its instruction does. -/
theorem Moment.Ends.sp_after (h : q.Ends) :
    q.after.core.registers.sp = q.before.core.registers.sp +
      ((q.completes Instruction.isCall).toNat - (q.completes Instruction.isReturn).toNat) := by
  cases h with
  | failed f h => simp [h.registers_after, completes, h.completed?_eq_none]
  | completed d c h =>
    rw [h.core_after, h.touches.sp, Instruction.stackShift_eq]
    simp only [completes, h.completed?_eq_some, Option.any_some]
    rfl

/-- A step does not touch the frames below the stack pointer. -/
theorem Moment.Ends.frameAt_after (h : q.Ends) {k : Nat}
    (hk : (k : Int) < q.before.core.registers.sp) :
    q.after.core.registers.frameAt k = q.before.core.registers.frameAt k := by
  cases h with
  | failed f h => rw [h.registers_after]
  | completed d c h =>
    rw [h.core_after]
    exact h.touches.frames k (.inl (Int.ne_of_lt hk))

/-- A machine has not yet returned from the call that another one made: the frames that were there
before the call are unchanged, and the one above them is the place behind the call. -/
structure Pending (m m' : Machine) : Prop where
  below : ∀ k : Nat, (k : Int) < m.core.registers.sp →
    m'.core.registers.frameAt k = m.core.registers.frameAt k
  place : m'.core.registers.frameAt m.core.registers.sp.toNat = m.core.registers.pc + 2

/-- **A step above the call leaves it pending.** -/
theorem Pending.step (hsp : 0 ≤ m.core.registers.sp) (h : m.Pending q.before) (hends : q.Ends)
    (habove : m.core.registers.sp < q.before.core.registers.sp) : m.Pending q.after where
  below k hk := (hends.frameAt_after (Int.lt_trans hk habove)).trans (h.below k hk)
  place := (hends.frameAt_after (by omega)).trans h.place

/-- A call that finds room on the stack completes and is pending then. -/
theorem pending_of_call {d : Decoded} {target : Address} (hrange : q.before.core.InRange)
    (hends : q.Ends) (hpeek : q.before.core.peek = .ok d) (hcall : d.instruction = .call target)
    (hsp : q.before.core.registers.sp < 16) : q.completed? = some d ∧ q.before.Pending q.after := by
  -- the only thing that a call checks is that there is room
  have hroom : d.instruction.refusal? q.ticked = none := by
    have hfull : ¬ q.ticked.registers.sp = 16 := Int.ne_of_lt hsp
    rw [hcall, Instruction.refusal?, if_neg hfull]
  obtain ⟨c, hc⟩ := hends.exists_completed hrange hpeek hroom
  refine ⟨hc.completed?_eq_some, fun k hk => ?_, ?_⟩
  · rw [hc.core_after]
    exact hc.touches.frames k (.inl (Int.ne_of_lt hk))
  · rw [hc.core_after]
    exact hc.touches.pushed target hcall

/-- What a step does that comes back to the call that a machine made: it is a return to the place
behind the call, where the machine goes on running unless that place is outside of the memory. -/
structure ReturnsFrom (m : Machine) (q : Moment) : Prop where
  completes : q.completes Instruction.isReturn = true
  pc : q.after.core.registers.pc = m.core.registers.pc + 2
  running : m.core.registers.pc ≠ 0xFFE → q.after.status = .running
  halted : m.core.registers.pc = 0xFFE →
    q.after.status = .halted (.fault (.outOfBounds 0x1000 2))

/-- **The step that brings the stack pointer back to a pending call returns from it.** -/
theorem Pending.returnsFrom (h : m.Pending q.before) (hends : q.Ends)
    (hexit : q.before.core.exited = false) (hpc : m.core.registers.pc ≤ 0xFFE)
    (habove : m.core.registers.sp < q.before.core.registers.sp)
    (hback : q.after.core.registers.sp = m.core.registers.sp) : m.ReturnsFrom q := by
  cases hends with
  | failed f h' =>
    rw [h'.registers_after] at hback
    exact absurd hback (Int.ne_of_gt habove)
  | completed d c hc =>
    have hshift : c.registers.sp = q.before.core.registers.sp + d.instruction.stackShift :=
      hc.touches.sp
    rw [hc.core_after, hshift] at hback
    have hret : d.instruction = .ret := Instruction.eq_ret_of_stackShift_neg (by omega)
    have hlast : q.before.core.registers.sp - 1 = m.core.registers.sp := by
      rw [hret] at hback
      exact hback
    have hplace : c.registers.pc = m.core.registers.pc + 2 := by
      have hpop : c.registers.pc =
          q.before.core.registers.frameAt (q.before.core.registers.sp - 1).toNat := by
        rw [hc.touches.pc, hret]
        rfl
      rw [hpop, hlast, h.place]
    have hnot : d.instruction ≠ .exit := by
      rw [hret]
      nofun
    refine ⟨?_, by rw [hc.core_after, hplace], fun hne => ?_, fun heq => ?_⟩
    · rw [Moment.completes, hc.completed?_eq_some, Option.any_some, hret]
      rfl
    · exact hc.running_after hexit hnot (by omega)
    · have hend : c.registers.pc = 0x1000 := by omega
      rw [hc.status_after, Core.verdict_of_beyond (hc.going hexit hnot) (by omega), hend]

/-! ## Whole scripts -/

/-- As long as the stack pointer stays above a pending call, a script leaves it pending. -/
theorem pending_after {setup : Setup} (hm : MadeFrom setup m') (hsp : 0 ≤ m.core.registers.sp)
    (h : m.Pending m') {history : List (Clock × Action)}
    (hkept : ∀ turn ∈ history, turn.2.restarts = false)
    (habove : ∀ p ∈ m'.moments history, m.core.registers.sp < p.before.core.registers.sp) :
    m.Pending (m'.after history) := by
  let P (n : Machine) (past : List Moment) : Prop :=
    MadeFrom setup n ∧
      ((∀ p ∈ past, m.core.registers.sp < p.before.core.registers.sp) → m.Pending n)
  suffices hP : P (m'.after history) ([] ++ m'.moments history) from hP.2 habove
  refine moments_preserve (P := P) (A := fun a => a.restarts = false) ?_ ?_ ⟨hm, fun _ => h⟩
    hkept
  · rintro past q hrun ⟨hn, hpending⟩
    refine ⟨hn.performed q.clock .step, fun hpast => ?_⟩
    have hends := q.ends hn.keeps.core.toInRange hrun
    exact (hpending fun p hp => hpast p (List.mem_append_left _ hp)).step hsp hends
      (hpast _ (List.mem_append_right _ (.head _)))
  · rintro n past clock a ha hother ⟨hn, hpending⟩
    refine ⟨hn.performed clock a, fun hpast => ?_⟩
    -- nothing but a step or a restart touches the stack
    have hbefore := hpending hpast
    constructor
    · intro k hk
      rw [registers_respond clock hother ha]
      exact hbefore.below k hk
    · rw [registers_respond clock hother ha]
      exact hbefore.place

/-- The number of steps that complete an instruction of a kind. -/
def count (kind : Instruction → Bool) (past : List Moment) : Nat := past.countP (·.completes kind)

theorem count_concat (kind : Instruction → Bool) (past : List Moment) (q : Moment) :
    count kind (past ++ [q]) = count kind past + (q.completes kind).toNat := by
  rw [count, List.countP_append, List.countP_singleton]
  cases q.completes kind <;> rfl

/-- A machine at the start of its program. -/
inductive Restarted (setup : Setup) : Machine → Prop
  | switchedOn {clock : Clock} {printed : Bool} {o : Observed Machine}
      (h : switchOn setup clock printed = .ok o) : Restarted setup o.value
  | performed {m : Machine} (h : MadeFrom setup m) (clock : Clock) {a : Action}
      (ha : a.restarts = true) : Restarted setup (m.respond clock a).machine

theorem Restarted.madeFrom {setup : Setup} (h : Restarted setup m) : MadeFrom setup m := by
  cases h with
  | switchedOn h => exact .switchedOn h
  | performed h clock ha => exact h.performed clock _

theorem Restarted.sp_eq_zero {setup : Setup} (h : Restarted setup m) :
    m.core.registers.sp = 0 := by
  cases h with
  | switchedOn h =>
    obtain ⟨-, trace, -, rfl⟩ := (switchOn_eq_ok_iff _).1 h
    rfl
  | performed h clock ha =>
    rw [registers_respond_of_restarts clock ha]
    rfl

/-- Every machine was at the start of its program once, and was not restarted since. -/
theorem MadeFrom.exists_restart {setup : Setup} (h : MadeFrom setup m) :
    ∃ start history, Restarted setup start ∧ (∀ turn ∈ history, turn.2.restarts = false) ∧
      m = start.after history := by
  induction h with
  | switchedOn h => exact ⟨_, [], .switchedOn h, by simp, rfl⟩
  | @performed m h clock a ih =>
    cases ha : a.restarts with
    | true => exact ⟨_, [], .performed h clock ha, by simp, rfl⟩
    | false =>
      obtain ⟨start, history, hstart, hkept, rfl⟩ := ih
      refine ⟨start, history ++ [(clock, a)], hstart, fun turn hturn => ?_, ?_⟩
      · obtain hturn | hturn := List.mem_append.1 hturn
        · exact hkept turn hturn
        · rw [List.mem_singleton.1 hturn]
          exact ha
      · rw [after_append]
        rfl

/-- The stack pointer counts the calls that were not returned from. -/
theorem sp_after {setup : Setup} (h : Restarted setup m) {history : List (Clock × Action)}
    (hkept : ∀ turn ∈ history, turn.2.restarts = false) :
    (m.after history).core.registers.sp =
      (count Instruction.isCall (m.moments history) : Int) -
        count Instruction.isReturn (m.moments history) := by
  let P (n : Machine) (past : List Moment) : Prop :=
    MadeFrom setup n ∧ n.core.registers.sp =
      (count Instruction.isCall past : Int) - count Instruction.isReturn past
  suffices hP : P (m.after history) ([] ++ m.moments history) from hP.2
  refine moments_preserve (P := P) (A := fun a => a.restarts = false) ?_ ?_
    ⟨h.madeFrom, h.sp_eq_zero.trans (by simp [count])⟩ hkept
  · rintro past q hrun ⟨hn, hsp⟩
    refine ⟨hn.performed q.clock .step, ?_⟩
    rw [count_concat, count_concat, (q.ends hn.keeps.core.toInRange hrun).sp_after, hsp]
    omega
  · rintro n past clock a ha hother ⟨hn, hsp⟩
    refine ⟨hn.performed clock a, ?_⟩
    rw [registers_respond clock hother ha]
    exact hsp

/-! ## Calls nest -/

/-- What becomes of the call that led from one machine to another, in whatever script follows that
does not restart the machine. -/
structure CallNests (m called : Machine) : Prop where
  /-- The call is pending as long as the stack pointer stays above it. -/
  pending : ∀ history : List (Clock × Action), (∀ turn ∈ history, turn.2.restarts = false) →
    (∀ p ∈ called.moments history, m.core.registers.sp < p.before.core.registers.sp) →
      m.Pending (called.after history)
  /-- The first step that brings the stack pointer back to the call returns from it. -/
  returns : ∀ history : List (Clock × Action), (∀ turn ∈ history, turn.2.restarts = false) →
    ∀ past q, past ++ [q] <+: called.moments history →
      (∀ p ∈ past ++ [q], m.core.registers.sp < p.before.core.registers.sp) →
        m.Pending q.before ∧ m.Pending q.after ∧
          (q.after.core.registers.sp = m.core.registers.sp → m.ReturnsFrom q)

/-- **Calls return behind themselves.** A call that finds room on the stack is pending until the
stack pointer comes back to it, however far away that is, and the step in which it does so is a
return to the place behind the call. The stack pointer counts the calls since the last restart that
were not returned from, of which there are sixteen at the most. -/
theorem calls_nest (setup : Setup) :
    (∀ m clock d target, MadeFrom setup m → m.status = .running → m.core.peek = .ok d →
      d.instruction = .call target → m.core.registers.sp < 16 →
        (Moment.mk m clock).completed? = some d ∧ m.CallNests (m.stepOn clock).machine) ∧
    (∀ m, MadeFrom setup m → 0 ≤ m.core.registers.sp ∧ m.core.registers.sp ≤ 16 ∧
      ∃ start history, Restarted setup start ∧ (∀ turn ∈ history, turn.2.restarts = false) ∧
        m = start.after history) ∧
    (∀ start, Restarted setup start → ∀ history : List (Clock × Action),
      (∀ turn ∈ history, turn.2.restarts = false) →
        (start.after history).core.registers.sp =
          (count Instruction.isCall (start.moments history) : Int) -
            count Instruction.isReturn (start.moments history)) := by
  refine ⟨fun m clock d target hm hrun hpeek hcall hsp => ?_, fun m hm => ?_,
    fun start hstart history hkept => sp_after hstart hkept⟩
  · have hrange := hm.keeps.core.toInRange
    have hends := Moment.ends ⟨m, clock⟩ hrange hrun
    obtain ⟨hcompleted, hpending⟩ := pending_of_call hrange hends hpeek hcall hsp
    have hcalled : MadeFrom setup (m.stepOn clock).machine := hm.performed clock .step
    refine ⟨hcompleted, fun history hkept habove =>
      pending_after hcalled hrange.sp_nonneg hpending hkept habove, ?_⟩
    intro history hkept past q hprefix habove
    -- a shorter script ends where the step begins, and it stays above the call as well
    obtain ⟨hrunq, script, hscript, hbefore, hpast⟩ :=
      exists_script_of_moment (A := fun a => a.restarts = false) rfl hkept hprefix
    have hq := habove q (List.mem_append_right _ (.head _))
    have hqbefore : m.Pending q.before := by
      rw [← hbefore]
      refine pending_after hcalled hrange.sp_nonneg hpending hscript fun p hp => ?_
      rw [hpast] at hp
      exact habove p (List.mem_append_left _ hp)
    have hqmade : MadeFrom setup q.before := hbefore ▸ hcalled.after script
    have hqends := q.ends hqmade.keeps.core.toInRange hrunq
    exact ⟨hqbefore, hqbefore.step hrange.sp_nonneg hqends hq,
      hqbefore.returnsFrom hqends (hqmade.keeps.not_exited hrunq) (Core.pc_le_of_peek hpeek) hq⟩
  · obtain ⟨h₀, h₁⟩ := hm.keeps.ranges.sp
    exact ⟨h₀, h₁, hm.exists_restart⟩

/-- A program that calls its second instruction, which returns. -/
theorem call_nests_in_sample :
    ∃ m q, MadeFrom sampleSetup m ∧ m.status = .running ∧
      m.core.peek = .ok ⟨0x2202, .call 0x202⟩ ∧ m.core.registers.sp = 0 ∧
      (m.stepOn (.still 1)).machine.moments [(.still 2, .step)] = [q] ∧
      q.after.core.registers.sp = 0 ∧ m.ReturnsFrom q := by
  obtain ⟨m, hm, hstarts⟩ :
      ∃ m, MadeFrom sampleSetup m ∧ m.Starts [0x22, 0x02, 0x00, 0xEE] :=
    ⟨_, madeFrom_sample _, starts_sample (by decide)⟩
  let q : Moment := ⟨(m.stepOn (.still 1)).machine, .still 2⟩
  have hrun := hstarts.running
  have hsp : m.core.registers.sp = 0 := by
    rw [hstarts.registers_eq]
    rfl
  have hpeek : m.core.peek = .ok ⟨0x2202, .call 0x202⟩ := hstarts.peek_eq
  -- the call goes on at the second instruction
  obtain ⟨c, hc⟩ := (Moment.ends ⟨m, .still 1⟩ hm.keeps.core.toInRange hrun).exists_completed
    hm.keeps.core.toInRange hpeek (by rw [Instruction.refusal?]; exact if_neg (hsp ▸ by decide))
  have hafter : q.before.core = c := hc.core_after
  have hq : MadeFrom sampleSetup q.before := hm.performed (.still 1) .step
  have hrange : q.before.core.InRange := hq.keeps.core.toInRange
  have hpc : c.registers.pc = 0x202 := hc.touches.pc
  have hqrun : q.before.status = .running :=
    hc.running_after (hm.keeps.not_exited hrun) (by decide) (by rw [hpc]; decide)
  have hqsp : q.before.core.registers.sp = 1 := by
    rw [hafter]
    exact hc.touches.sp.trans (congrArg (· + 1) hsp)
  have hholds : c.Holds [0x22, 0x02, 0x00, 0xEE] := by
    refine hc.touches.holds (hstarts.holds (by decide)) ?_
    rintro ⟨a, hfrom, hto, -⟩
    exact absurd hto (Nat.not_lt.2 hfrom)
  have hword : Decoded.ofWord (Memory.wordOf 0x00 0xEE) = .ok ⟨0x00EE, .ret⟩ := rfl
  have hret : q.before.core.peek = .ok ⟨0x00EE, .ret⟩ := by
    rw [hafter]
    exact (hholds.peek_eq (hafter ▸ hrange) (by decide) (k := 2) (by decide) hpc).trans hword
  -- and that one returns
  obtain ⟨c', hc'⟩ := (q.ends hrange hqrun).exists_completed hrange hret
    (by rw [Instruction.refusal?]; exact if_neg (hqsp ▸ by decide))
  have hback : q.after.core.registers.sp = 0 := by
    rw [hc'.core_after]
    exact hc'.touches.sp.trans (congrArg (· + -1) hqsp)
  have hmoments : q.before.moments [(.still 2, .step)] = [q] := by
    rw [moments, momentsOf_of_running hqrun]
    rfl
  obtain ⟨-, hnests⟩ :=
    (calls_nest sampleSetup).1 m (.still 1) _ _ hm hrun hpeek rfl (by rw [hsp]; decide)
  have hprefix : [] ++ [q] <+: q.before.moments [(.still 2, .step)] := by
    rw [hmoments]
    exact List.prefix_refl _
  obtain ⟨-, -, hreturns⟩ := hnests.returns [(.still 2, .step)] (by simp [Action.restarts]) [] q
    hprefix (by simp [hqsp, hsp])
  exact ⟨m, q, hm, hrun, hpeek, hsp, hmoments, hback, hreturns (hback.trans hsp.symm)⟩

end Machine

end SuperChip
