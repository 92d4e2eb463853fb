import SuperChip.Proofs.Rig.Simulation

/-!
# New rigs

A rig is created from a setup on a bench that may hold any other, with whatever clock and switches
it has. It is the rig of the machine that is switched on with the same setup.

- `yields_newTimer`: a timer of an accepted frequency.
- `exists_on_create`: **a rig is created as the machine is switched on**.
- `switchedOn_of_create`: nothing else is ever created.
-/

namespace SuperChip

namespace Bench

variable {setup : Machine.Setup} {b made : Bench}

/-- The setup with the room of a bench. -/
def setupOn (setup : Machine.Setup) (b : Bench) : Machine.Setup :=
  { setup with room := b.around.room }

/-- A machine of a setup as it is switched on next to a bench. -/
def switchedOn (setup : Machine.Setup) (b : Bench) : Except Invalid (Observed Machine) :=
  Machine.switchOn (setupOn setup b) b.around.clock
    (Debug.enabled b.around.debug.categories (some "trace"))

theorem yields_newTimer {hz : Float} (h : ¬ hz ≤ 0) (rig : Rig) (clock : Clock) :
    Yields (newTimer hz) rig clock ⟨.ok (.start (1.0 / hz) (clock 0) 0), rig, 1, []⟩ := by
  have hperiod : Timer.periodOfRate? hz = .ok (1.0 / hz) := if_neg h
  unfold newTimer
  rw [hperiod]
  refine (yields_unlessInvalid _ _ (.ok _)).andThen ?_
  exact .afterLook (yields_pure _ _ _)

/-- A frequency of zero or below is refused before anything else happens. -/
theorem on_create_of_rate_le (h : setup.rate ≤ 0) (b : Bench) :
    (create setup).on b = (.error (.invalid .timerRate), b) := by
  have hperiod : Timer.periodOfRate? setup.rate = .error .timerRate := if_pos h
  have hrefused : (newTimer setup.rate).on b = (.error (.invalid .timerRate), b) := by
    unfold newTimer
    rw [hperiod]
    rfl
  exact Attempt.bind_of_error hrefused

/-- A trace is accepted or refused as that of a machine is. -/
theorem exists_on_newTrace (capacity : Int) (b : Bench) :
    ∃ around, (newTrace capacity).on b =
        ((Machine.initialTrace b.around.room capacity
          (Debug.enabled b.around.debug.categories (some "trace"))).mapError .invalid,
          ⟨b.rig, around⟩) ∧
      b.around.Goes around 0 [] := by
  unfold newTrace unlessInvalid
  by_cases hnone : capacity ≤ 0
  · have hasked : (debugEnabled "trace").on b =
        (.ok (Debug.enabled b.around.debug.categories (some "trace")),
          { b with around.debug := b.around.debug.settled }) := rfl
    rw [if_pos hnone, Attempt.bind_of_ok hasked, Attempt.bind_of_ok (Attempt.on_get _)]
    exact ⟨_, Attempt.on_ofExcept _ _, rfl, rfl, rfl, (List.append_nil _).symm⟩
  · have hsame : Machine.initialTrace b.around.room capacity
        (Debug.enabled b.around.debug.categories (some "trace")) =
        Machine.initialTrace b.around.room capacity false := by
      simp [Machine.initialTrace, hnone]
    rw [if_neg hnone, Attempt.bind_of_ok (Attempt.on_pure _ _),
      Attempt.bind_of_ok (Attempt.on_get _), hsame]
    exact ⟨b.around, Attempt.on_ofExcept _ _, .refl _⟩

/-- Once its timers are accepted, the trace decides whether a rig is created. -/
theorem exists_on_create_of_rate (h : ¬ setup.rate ≤ 0) (b : Bench) :
    match Machine.initialTrace b.around.room setup.traceCapacity
      (Debug.enabled b.around.debug.categories (some "trace")) with
    | .error e => ((create setup).on b).1 = .error (.invalid e)
    | .ok trace =>
      let on := (Machine.ofSetup (setupOn setup b) (b.around.clock 0) trace).resetOn
        b.around.clock.later
      ∃ around, (create setup).on b = (.ok (), ⟨on.value.rig, around⟩) ∧
        b.around.Goes around 4 on.events := by
  obtain ⟨first, hdelay, hgoes⟩ := yields_newTimer h b.rig b.around.clock b.around rfl
  obtain ⟨second, hsound, hgoes'⟩ := yields_newTimer h b.rig first.clock first rfl
  obtain ⟨third, htrace, hgoes''⟩ := exists_on_newTrace setup.traceCapacity ⟨b.rig, second⟩
  have hready := (hgoes.trans hgoes').trans hgoes''
  have hroom : second.room = b.around.room := (hgoes.trans hgoes').room
  have hcategories : second.debug.categories = b.around.debug.categories :=
    (hgoes.trans hgoes').categories
  rw [hroom, hcategories] at htrace
  unfold create
  rw [Attempt.bind_of_ok hdelay, Attempt.bind_of_ok hsound]
  cases ht : Machine.initialTrace b.around.room setup.traceCapacity
    (Debug.enabled b.around.debug.categories (some "trace")) with
  | error e =>
    rw [ht] at htrace
    exact congrArg Prod.fst (Attempt.bind_of_error htrace)
  | ok trace =>
    rw [ht] at htrace
    rw [Attempt.bind_of_ok htrace]
    -- the reset makes the timers forget when they were made
    let made : Rig :=
      { core := .start []
          ⟨.start (1.0 / setup.rate) (b.around.clock 0) 0,
            .start (1.0 / setup.rate) (first.clock 0) 0⟩
          setup.random
        keypad := .ofBindings setup.bindings
        trace := trace
        state := .running
        haltReason := none
        lastError := none
        program := []
        steps := 0 }
    have hrest : Yields (do change fun _ => made; reset) b.rig third.clock _ :=
      (yields_change _ _ _).andThen (yields_reset third.clock made (Nat.zero_le _))
    obtain ⟨last, hreset, hlast⟩ := hrest third rfl
    refine ⟨last, ?_, hready.trans hlast⟩
    rw [hready.clock] at hreset
    exact hreset

/-- **A rig is created as the machine is switched on.** -/
theorem exists_on_create {o : Observed Machine} (h : switchedOn setup b = .ok o) :
    ∃ around, (create setup).on b = (.ok (), ⟨o.value.rig, around⟩) ∧
      b.around.Goes around 4 o.events := by
  obtain ⟨hrate, trace, htrace, rfl⟩ := (Machine.switchOn_eq_ok_iff _).1 h
  have haccepted : Machine.initialTrace b.around.room setup.traceCapacity
    (Debug.enabled b.around.debug.categories (some "trace")) = .ok trace := htrace
  have hpositive : ¬ setup.rate ≤ 0 := hrate
  have hcreate := exists_on_create_of_rate hpositive b
  rw [haccepted] at hcreate
  exact hcreate

/-- No rigs are created but those of machines that are switched on. -/
theorem switchedOn_of_create (h : (create setup).on b = (.ok (), made)) :
    ∃ o, switchedOn setup b = .ok o ∧ made.rig = o.value.rig ∧
      b.around.Goes made.around 4 o.events := by
  by_cases hrate : setup.rate ≤ 0
  · rw [on_create_of_rate_le hrate] at h
    cases h
  · have hcreate := exists_on_create_of_rate hrate b
    cases htrace : Machine.initialTrace b.around.room setup.traceCapacity
      (Debug.enabled b.around.debug.categories (some "trace")) with
    | error e =>
      rw [htrace, h] at hcreate
      cases hcreate
    | ok trace =>
      rw [htrace] at hcreate
      obtain ⟨around, hon, hgoes⟩ := hcreate
      obtain rfl := congrArg Prod.snd (h.symm.trans hon)
      exact ⟨_, (Machine.switchOn_eq_ok_iff _).2 ⟨hrate, trace, htrace, rfl⟩, rfl, hgoes⟩

/-! ## A sample -/

/-- A bench with a rig of no account, where a value of the variable says what is printed. -/
def sample (setting : Option String) : Bench where
  rig := (Machine.sample []).rig
  around :=
    { room := .all
      readings := .still 0
      looked := 0
      debug := .start setting
      printed := [] }

/-- Without a capacity of its own a trace is always accepted. -/
theorem exists_initialTrace (printed : Bool) :
    ∃ trace, Machine.initialTrace .all 0 printed = .ok trace := by
  cases printed with
  | false => exact ⟨none, rfl⟩
  | true => exact ⟨some (.empty 512 (by decide)), rfl⟩

/-- The sample setup is accepted whether its rig is traced or not. -/
theorem exists_create_sample (setting : Option String) {capacity : Int}
    (h : capacity = 0 ∨ capacity = 4) :
    ∃ o around, switchedOn { Machine.sampleSetup with traceCapacity := capacity } (sample setting) =
        .ok o ∧
      (create { Machine.sampleSetup with traceCapacity := capacity }).on (sample setting) =
        (.ok (), ⟨o.value.rig, around⟩) := by
  have haccepted : ∃ trace, Machine.initialTrace .all capacity
      (Debug.enabled (sample setting).around.debug.categories (some "trace")) = .ok trace := by
    obtain rfl | rfl := h
    · exact exists_initialTrace _
    · exact ⟨some (.empty 4 (by decide)), rfl⟩
  obtain ⟨trace, htrace⟩ := haccepted
  have hrate : ¬ Machine.sampleSetup.rate ≤ 0 := by decide
  have hon : switchedOn { Machine.sampleSetup with traceCapacity := capacity } (sample setting) =
      .ok _ := (Machine.switchOn_eq_ok_iff _).2 ⟨hrate, trace, htrace, rfl⟩
  obtain ⟨around, hcreate, -⟩ := exists_on_create hon
  exact ⟨_, around, hon, hcreate⟩

end Bench

end SuperChip
