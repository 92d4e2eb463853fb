import SuperChip.Proofs.Machine.Twins
import SuperChip.Proofs.Rig.Creation

/-!
# Observers

A rig can be watched by its trace and by the messages that are printed about it. Both are asked for
from outside: the one by a capacity, the other by the value of a variable, which may ask for a trace
as well. The places where it is watched lie in the middle of its operations, and still none of them
looks at the clock, takes a random byte, fails or goes another way because of them.

- `Rig.untraced`: a rig without its trace.
- `Twins.looks_eq`: machines that differ in their traces only look at the clock as often.
- `Bench.follow_eq_of_twins`: such machines, on whatever benches with the same clock.
- `Bench.follow_eq_of_watched`: **however a rig is watched, it gives the same answers, comes to the
  same state and looks at the clock as often**.

About `debug_enabled`, `debug_log`, `Machine._record` and `create_machine`, wherever they are
called.
-/

namespace SuperChip

/-- A rig without its trace. -/
def Rig.untraced (rig : Rig) : Rig := { rig with trace := none }

/-- Machines that differ in their traces only look at the clock as often. -/
theorem Machine.Twins.looks_eq {m m' : Machine} (h : m.Twins m') (clock : Clock) (a : Action) :
    m.looks clock a = m'.looks clock a := by
  cases a with
  | step => rw [looks, looks, h.isHalted_eq]
  | run limit =>
    obtain ⟨htaken, -⟩ := h.toAlike.runStepsOn congruence_eq clock limit.toNat
    rw [looks, looks, runOn, runOn, htaken]
  | _ => rfl

namespace Bench

variable {setup : Machine.Setup} {m m' : Machine}

theorem follow_cons (b : Bench) (r : Request) (rest : List Request) :
    (b.follow (r :: rest)).1 = (b.answer r).1 :: ((b.answer r).2.follow rest).1 := rfl

/-- Two rigs whose machines differ in their traces only, on whatever benches with the same clock. -/
theorem follow_eq_of_twins {setup' : Machine.Setup} (hm : Machine.MadeFrom setup m)
    (hm' : Machine.MadeFrom setup' m') (h : m.Twins m') {around around' : Around}
    (hclock : around.clock = around'.clock) (script : List Request) :
    let b : Bench := ⟨m.rig, around⟩
    let b' : Bench := ⟨m'.rig, around'⟩
    (b.follow script).1 = (b'.follow script).1 ∧
      (b.after script).rig.untraced = (b'.after script).rig.untraced ∧
      (b.after script).around.clock = (b'.after script).around.clock := by
  -- after each request both machines and what is around them are others
  induction script generalizing m m' around around' with
  | nil => exact ⟨rfl, congrArg Machine.rig h.untraced_eq, hclock⟩
  | cons r rest ih =>
    obtain ⟨next, hanswer, hnext⟩ := answer_eq hm around r
    obtain ⟨next', hanswer', hnext'⟩ := answer_eq hm' around' r
    rw [← hclock] at hanswer' hnext'
    obtain ⟨hsame, htwins⟩ := h.respond (r.clock.getD around.clock) r.action
    rw [← hsame] at hanswer'
    rw [h.looks_eq, ← hnext'] at hnext
    obtain ⟨hanswers, hrig, hleft⟩ := ih (hm.performed _ _) (hm'.performed _ _) htwins hnext
    refine ⟨?_, ?_, ?_⟩
    · rw [follow_cons, follow_cons, hanswer, hanswer', hanswers]
    · rw [after_cons, after_cons, hanswer, hanswer', hrig]
    · rw [after_cons, after_cons, hanswer, hanswer', hleft]

/-- **However a rig is watched, it gives the same answers, comes to the same state and looks at the
clock as often**, whatever the switches of the messages, what was printed before and the rig that
stood there. -/
theorem follow_eq_of_watched {capacity capacity' : Int} {b b' made made' : Bench}
    (hclock : b.around.clock = b'.around.clock)
    (h : (create { setup with traceCapacity := capacity }).on b = (.ok (), made))
    (h' : (create { setup with traceCapacity := capacity' }).on b' = (.ok (), made'))
    (script : List Request) :
    (made.follow script).1 = (made'.follow script).1 ∧
      (made.after script).rig.untraced = (made'.after script).rig.untraced ∧
      (made.after script).around.clock = (made'.after script).around.clock := by
  obtain ⟨o, hon, hrig, hgoes⟩ := switchedOn_of_create h
  obtain ⟨o', hon', hrig', hgoes'⟩ := switchedOn_of_create h'
  have htwins : o.value.Twins o'.value := by
    obtain ⟨-, trace, -, rfl⟩ := (Machine.switchOn_eq_ok_iff _).1 hon
    obtain ⟨-, trace', -, rfl⟩ := (Machine.switchOn_eq_ok_iff _).1 hon'
    rw [← hclock]
    exact ⟨⟨rfl, rfl, rfl, rfl, rfl⟩, rfl⟩
  have hleft : made.around.clock = made'.around.clock := by
    rw [hgoes.clock, hgoes'.clock, hclock]
  obtain ⟨rig, around⟩ := made
  obtain ⟨rig', around'⟩ := made'
  obtain rfl : rig = o.value.rig := hrig
  obtain rfl : rig' = o'.value.rig := hrig'
  exact follow_eq_of_twins (.switchedOn hon) (.switchedOn hon') htwins hleft script

/-- A rig that nobody watches and one that is traced and fully reported on, both given a program
whose first instruction fails. -/
theorem follow_eq_of_sample :
    let script : List Request :=
      [⟨some (.still 1), .load [0x00, 0xEE]⟩, ⟨none, .step⟩, ⟨some (.still 2), .halt none⟩]
    ∃ made made',
      (create { Machine.sampleSetup with traceCapacity := 0 }).on (sample none) = (.ok (), made) ∧
      (create { Machine.sampleSetup with traceCapacity := 4 }).on (sample (some "all")) =
        (.ok (), made') ∧
      (made.follow script).1 = (made'.follow script).1 := by
  intro script
  obtain ⟨o, around, -, h⟩ := exists_create_sample none (.inl rfl)
  obtain ⟨o', around', -, h'⟩ := exists_create_sample (some "all") (.inr rfl)
  have hclock : (sample none).around.clock = (sample (some "all")).around.clock := rfl
  obtain ⟨hanswers, -⟩ :=
    @follow_eq_of_watched Machine.sampleSetup 0 4 _ _ _ _ hclock h h' script
  exact ⟨_, _, h, h', hanswers⟩

end Bench

end SuperChip
