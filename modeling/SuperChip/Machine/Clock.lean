import SuperChip.Machine

/-!
# Clocks that move

An operation looks at the clock once for each timer, for the delay timer first, and a run does so
in every step. The ordinary operations of a machine take the clock to stand still meanwhile; here
it moves.

- `Clock`: the readings that a clock gives, in order.
- `Machine.switchOn`, `resetOn`, `loadOn`, `stepOn`, `runOn`: the operations on a clock that moves.
- `stepOn_still`, `runOn_still`, `switchOn_still`: on a clock that stands still they are the
  ordinary ones.
-/

namespace SuperChip

/-- A clock, by the readings that it gives whenever it is looked at. -/
abbrev Clock := Nat → Float

namespace Clock

/-- A clock that stands still. -/
def still (now : Float) : Clock := fun _ => now

/-- The clock after both timers have looked at it. -/
def later (clock : Clock) : Clock := fun k => clock (k + 2)

/-- The clock after so many looks at it. -/
def skip (clock : Clock) (looks : Nat) : Clock := fun k => clock (k + looks)

/-- Looks at a clock add up. -/
theorem skip_skip (clock : Clock) (looks looks' : Nat) :
    (clock.skip looks).skip looks' = clock.skip (looks + looks') := by
  funext k
  rw [skip, skip, skip, Nat.add_assoc, Nat.add_comm looks' looks]

@[simp] theorem later_still (now : Float) : (still now).later = still now := rfl

end Clock

namespace Machine

variable (m : Machine) (clock : Clock)

/-- Puts the machine back to the start of its program and lets it run. -/
def resetOn : Observed Machine := m.restart (m.core.timers.resetAt (clock 0) (clock 1))

/-- Resets the machine with a program. -/
def loadOn (program : List UInt8) : Observed (Machine × LoadResult) :=
  m.install (m.core.timers.resetAt (clock 0) (clock 1)) program

/-- Lets the timers look at the clock and executes one instruction. -/
def stepOn : Stepped := m.stepAt (clock 0) (clock 1)

/-- Steps the machine until it halts, but at most so many times. -/
def runStepsOn : Nat → Clock → Machine → Ran
  | 0, _, m => ⟨m, .ok 0, []⟩
  | limit + 1, clock, m =>
    if m.isHalted then ⟨m, .ok 0, []⟩
    else
      let s := m.stepOn clock
      match s.result with
      | .error e => ⟨s.machine, .error e, s.events⟩
      | .ok _ =>
        let rest := runStepsOn limit clock.later s.machine
        ⟨rest.machine, rest.taken.map (· + 1), s.events ++ rest.events⟩

/-- Steps the machine until it halts, but at most `limit` times. A limit below zero is zero. -/
def runOn (limit : Int) : Ran := runStepsOn limit.toNat clock m

/-- A machine as it is switched on. The timers look at the clock when they are made, and again in
the reset that follows, which makes them forget the readings from before. -/
def switchOn (setup : Setup) (clock : Clock) (printed : Bool) :
    Except Invalid (Observed Machine) :=
  (create setup (clock 0) printed).map fun o => o.value.resetOn clock.later

/-! ## Clocks that stand still -/

/-- On a clock that stands still `stepOn` is `step`. -/
theorem stepOn_still (now : Float) : m.stepOn (.still now) = m.step now := rfl

/-- On a clock that stands still a run of steps is the ordinary one. -/
theorem runStepsOn_still (now : Float) (limit : Nat) :
    runStepsOn limit (.still now) m = m.runSteps now limit := by
  induction limit generalizing m with
  | zero => rfl
  | succ limit ih =>
    have hrest := ih (m.step now).machine
    unfold runStepsOn runSteps
    by_cases hhalted : m.isHalted
    · rw [if_pos hhalted, if_pos hhalted]
    · rw [if_neg hhalted, if_neg hhalted, stepOn_still, Clock.later_still]
      cases hresult : (m.step now).result with
      | error e => simp only [hresult]
      | ok r => simp only [hresult, hrest]

/-- On a clock that stands still `runOn` is `run`. -/
theorem runOn_still (now : Float) (limit : Int) : m.runOn (.still now) limit = m.run now limit :=
  runStepsOn_still m now limit.toNat

/-- A machine is switched on as it is created, since a second reset changes nothing more. -/
theorem switchOn_still (setup : Setup) (now : Float) (printed : Bool) :
    switchOn setup (.still now) printed = create setup now printed := by
  unfold switchOn create
  rw [Clock.later_still, Clock.still]
  cases Timers.ofRate? setup.rate now with
  | error e => rfl
  | ok timers => cases initialTrace setup.room setup.traceCapacity printed <;> rfl

end Machine

end SuperChip
