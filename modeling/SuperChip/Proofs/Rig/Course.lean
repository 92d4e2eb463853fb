import SuperChip.Proofs.Text.Template
import SuperChip.Rig

/-!
# Courses of operations

What an operation on a rig does must not depend on who watches it. Its course is told once, for
every way of watching: what comes of it, how often it looks at the clock and what it reports.

- `Around.Goes`: what an operation leaves of its surroundings.
- `Bench.Course`, `Bench.Yields`: **an operation takes the same course however it is watched**.
- `Yields.bind` and the lemmas beside it: one operation after the other.
- `yields_look`, `yields_note`: a look at the clock, and a report, for which there is always room.
- `yields_tickTimer`, `yields_resetTimer`, `yields_halt_of_running`, `yields_fail_of_running`: the
  parts of the greater operations.
-/

namespace SuperChip

/-! ## Courses -/

/-- An operation leaves its surroundings as the clock, the switches and the printed lines say. -/
structure Around.Goes (before after : Around) (looks : Nat) (events : List Event) : Prop where
  room : after.room = before.room
  clock : after.clock = before.clock.skip looks
  categories : after.debug.categories = before.debug.categories
  printed : after.printed = before.printed ++ Debug.lines before.debug.categories events

namespace Around.Goes

variable {before between after : Around} {looks looks' : Nat} {events events' : List Event}

/-- Nothing leaves its surroundings as they are. -/
theorem refl (around : Around) : around.Goes around 0 [] :=
  ⟨rfl, rfl, rfl, (List.append_nil _).symm⟩

/-- What goes on after something else leaves the surroundings as both say. -/
theorem trans (h : before.Goes between looks events) (h' : between.Goes after looks' events') :
    before.Goes after (looks + looks') (events ++ events') where
  room := h'.room.trans h.room
  clock := by rw [h'.clock, h.clock, Clock.skip_skip]
  categories := h'.categories.trans h.categories
  printed := by
    rw [h'.printed, h.printed, h.categories, List.append_assoc, Debug.lines, Debug.lines,
      Debug.lines, List.filterMap_append]

end Around.Goes

namespace Bench

/-- What comes of an operation on a rig. -/
structure Course (α : Type) where
  result : Except Raised α
  rig : Rig
  /-- How often the clock was looked at. -/
  looks : Nat
  /-- What was reported on the way. -/
  events : List Event

/-- **However it is watched**, an operation on a rig takes one and the same course. -/
def Yields {α : Type} (x : Op α) (rig : Rig) (clock : Clock) (course : Course α) : Prop :=
  ∀ around : Around, around.clock = clock → ∃ around',
    x.on ⟨rig, around⟩ = (course.result, ⟨course.rig, around'⟩) ∧
      around.Goes around' course.looks course.events

section

variable {α β : Type} {x : Op α} {f : α → Op β} {rig rig₁ rig₂ : Rig} {clock : Clock} {a : α}
  {r : Except Raised β} {e : Raised} {looks looks' : Nat} {events events' : List Event}

/-- One operation after the other. -/
theorem Yields.bind (hx : Yields x rig clock ⟨.ok a, rig₁, looks, events⟩)
    (hf : Yields (f a) rig₁ (clock.skip looks) ⟨r, rig₂, looks', events'⟩) :
    Yields (x >>= f) rig clock ⟨r, rig₂, looks + looks', events ++ events'⟩ := by
  rintro around rfl
  obtain ⟨between, hon, hgoes⟩ := hx around rfl
  obtain ⟨after, hon', hgoes'⟩ := hf between hgoes.clock
  exact ⟨after, (Attempt.bind_of_ok hon).trans hon', hgoes.trans hgoes'⟩

/-- An operation behind one that the surroundings do not notice. -/
theorem Yields.andThen {course : Course β} (hx : Yields x rig clock ⟨.ok a, rig₁, 0, []⟩)
    (hf : Yields (f a) rig₁ clock course) : Yields (x >>= f) rig clock course := by
  have h := hx.bind (f := f) (r := course.result) hf
  rwa [Nat.zero_add] at h

/-- An operation before one that does not look at the clock. -/
theorem Yields.andTimeless (hx : Yields x rig clock ⟨.ok a, rig₁, looks, events⟩)
    (hf : Yields (f a) rig₁ (clock.skip looks) ⟨r, rig₂, 0, events'⟩) :
    Yields (x >>= f) rig clock ⟨r, rig₂, looks, events ++ events'⟩ := hx.bind hf

/-- An operation before one that the surroundings do not notice. -/
theorem Yields.andLast (hx : Yields x rig clock ⟨.ok a, rig₁, looks, events⟩)
    (hf : Yields (f a) rig₁ (clock.skip looks) ⟨r, rig₂, 0, []⟩) :
    Yields (x >>= f) rig clock ⟨r, rig₂, looks, events⟩ := by
  have h := hx.andTimeless hf
  rwa [List.append_nil] at h

/-- After a failure nothing else is done. -/
theorem Yields.raise (hx : Yields x rig clock ⟨.error e, rig₁, looks, events⟩) :
    Yields (x >>= f) rig clock ⟨.error e, rig₁, looks, events⟩ := by
  intro around hclock
  obtain ⟨after, hon, hgoes⟩ := hx around hclock
  exact ⟨after, Attempt.bind_of_error hon, hgoes⟩

/-- An operation whose failure is caught takes the same course. -/
theorem Yields.caught {course : Course α} (hx : Yields x rig clock course) :
    Yields (Attempt.caught x) rig clock
      ⟨.ok course.result, course.rig, course.looks, course.events⟩ := by
  intro around hclock
  obtain ⟨after, hon, hgoes⟩ := hx around hclock
  exact ⟨after, by rw [Attempt.on_caught, hon], hgoes⟩

variable (rig clock)

theorem yields_pure (a : α) : Yields (pure a) rig clock ⟨.ok a, rig, 0, []⟩ :=
  fun around _ => ⟨around, rfl, .refl around⟩

theorem yields_throw (e : Raised) : Yields (throw e : Op α) rig clock ⟨.error e, rig, 0, []⟩ :=
  fun around _ => ⟨around, rfl, .refl around⟩

theorem yields_ofExcept (r : Except Raised α) :
    Yields (Attempt.ofExcept r) rig clock ⟨r, rig, 0, []⟩ :=
  fun around _ => ⟨around, Attempt.on_ofExcept _ _, .refl around⟩

/-- The rig is there for everyone to see. -/
theorem yields_theRig : Yields theRig rig clock ⟨.ok rig, rig, 0, []⟩ :=
  fun around _ => ⟨around, rfl, .refl around⟩

/-- A change of the rig does not touch its surroundings. -/
theorem yields_change (g : Rig → Rig) : Yields (change g) rig clock ⟨.ok (), g rig, 0, []⟩ :=
  fun around _ => ⟨around, rfl, .refl around⟩

/-- A look gives the reading of the clock, which moves on. -/
theorem yields_look : Yields look rig clock ⟨.ok (clock 0), rig, 1, []⟩ := by
  rintro around rfl
  exact ⟨_, rfl, rfl, (Clock.skip_skip _ _ _).symm, rfl, (List.append_nil _).symm⟩

theorem yields_unlessFault (r : Except Fault α) :
    Yields (unlessFault r) rig clock ⟨r.mapError fun f => .stop (.fault f), rig, 0, []⟩ :=
  yields_ofExcept _ _ _

theorem yields_unlessInvalid (r : Except Invalid α) :
    Yields (unlessInvalid r) rig clock ⟨r.mapError .invalid, rig, 0, []⟩ :=
  yields_ofExcept _ _ _

/-- For the values of an event there is always room. -/
theorem on_debugLog (b : Bench) (e : Event) :
    (debugLog e.category e.template e.values).on b =
      (.ok (), { b with around := { b.around with
        debug := b.around.debug.settled
        printed := b.around.printed ++
          (Debug.line? b.around.debug.categories e.category e.message).toList } }) := by
  have hlog := e.log_eq b.around.room b.around.debug.settled
  have hline : (unlessInvalid ((b.around.debug.settled.log b.around.room e.category e.template
      e.values).mapError Invalid.oversize)).on { b with around.debug := b.around.debug.settled } =
      (.ok (Debug.line? b.around.debug.categories e.category e.message),
        { b with around.debug := b.around.debug.settled }) := by
    rw [hlog]
    rfl
  unfold debugLog
  rw [Attempt.bind_of_ok (Attempt.on_modify _ b), Attempt.bind_of_ok (Attempt.on_get _),
    Attempt.bind_of_ok hline]
  rfl

/-- An event is printed just if its category is switched on, and nothing else comes of it. -/
theorem on_note (b : Bench) (e : Event) :
    (note e).on b =
      (.ok (), { b with around := { b.around with
        debug := b.around.debug.settled
        printed := b.around.printed ++ Debug.lines b.around.debug.categories [e] } }) := by
  have hasked : (debugEnabled e.category).on b =
      (.ok (Debug.enabled b.around.debug.categories (some e.category)),
        { b with around.debug := b.around.debug.settled }) := rfl
  unfold note
  rw [Attempt.bind_of_ok hasked]
  cases henabled : Debug.enabled b.around.debug.categories (some e.category) with
  | true =>
    have hline : Debug.lines b.around.debug.categories [e] =
        (Debug.line? b.around.debug.categories e.category e.message).toList := by
      simp [Debug.lines, Debug.line?, henabled]
    rw [if_pos rfl, on_debugLog, hline]
    rfl
  | false =>
    have hline : Debug.lines b.around.debug.categories [e] = [] := by
      simp [Debug.lines, Debug.line?, henabled]
    rw [if_neg Bool.false_ne_true, hline, List.append_nil]
    rfl

/-- A report leaves the rig, whether its category is switched on or not. -/
theorem yields_note (e : Event) : Yields (note e) rig clock ⟨.ok (), rig, 0, [e]⟩ := by
  rintro around rfl
  exact ⟨_, on_note _ e, rfl, rfl, rfl, rfl⟩

variable {rig clock}

/-- The answer of an operation, as another one. -/
theorem Yields.map {course : Course α} (g : α → β) (hx : Yields x rig clock course) :
    Yields (do return g (← x)) rig clock
      ⟨course.result.map g, course.rig, course.looks, course.events⟩ := by
  obtain ⟨r, rig', looks, events⟩ := course
  cases r with
  | error e => exact hx.raise
  | ok a => exact hx.andLast (yields_pure _ _ _)

/-- A look at the clock before anything else. -/
theorem Yields.afterLook {f : Float → Op β}
    (hf : Yields (f (clock 0)) rig (clock.skip 1) ⟨r, rig₂, looks, events⟩) :
    Yields (look >>= f) rig clock ⟨r, rig₂, looks + 1, events⟩ := by
  have h := (yields_look rig clock).bind hf
  rwa [Nat.add_comm] at h

/-- A report before anything else. -/
theorem Yields.afterNote {f : Unit → Op β} {e : Event}
    (hf : Yields (f ()) rig clock ⟨r, rig₂, looks, events⟩) :
    Yields (note e >>= f) rig clock ⟨r, rig₂, looks, e :: events⟩ := by
  have h := (yields_note rig clock e).bind (f := f) hf
  rwa [Nat.zero_add] at h

end

/-! ## Timers -/

variable (rig : Rig) (clock : Clock)

/-- A timer looks at the clock once, whether it fires or not. -/
theorem yields_tickTimer (name : Timers.Name) :
    Yields (tickTimer name) rig clock
      ⟨.ok (), { rig with core.timers :=
          rig.core.timers.put ((rig.core.timers.get name).tick (clock 0)) name },
        1, ((rig.core.timers.get name).counted? (clock 0)).toList.map (.counted name.text)⟩ := by
  unfold tickTimer
  refine .afterLook ?_
  refine (yields_theRig _ _).andThen ?_
  refine (yields_change _ _ _).andThen ?_
  cases (rig.core.timers.get name).counted? (clock 0) with
  | none => exact yields_pure _ _ _
  | some value => exact yields_note _ _ _

/-- So does a timer that is reset. -/
theorem yields_resetTimer (name : Timers.Name) :
    Yields (resetTimer name) rig clock
      ⟨.ok (), { rig with core.timers :=
          rig.core.timers.put ((rig.core.timers.get name).reset (clock 0)) name }, 1, []⟩ := by
  unfold resetTimer
  refine .afterLook ?_
  refine (yields_theRig _ _).andThen ?_
  exact yields_change _ _ _

variable {rig clock} in
/-- A timer is reset before anything else. -/
theorem Yields.afterResetTimer {β : Type} {f : Unit → Op β} {r : Except Raised β} {rig₂ : Rig}
    {looks : Nat} {events : List Event} (name : Timers.Name)
    (hf : Yields (f ())
      { rig with core.timers :=
          rig.core.timers.put ((rig.core.timers.get name).reset (clock 0)) name }
      (clock.skip 1) ⟨r, rig₂, looks, events⟩) :
    Yields (resetTimer name >>= f) rig clock ⟨r, rig₂, looks + 1, events⟩ := by
  have h := (yields_resetTimer rig clock name).bind hf
  rwa [Nat.add_comm] at h

/-! ## Halting -/

/-- A halted rig is left alone. -/
theorem yields_halt_of_halted (h : rig.state = .halted) (reason : Option String) :
    Yields (halt reason) rig clock ⟨.ok (), rig, 0, []⟩ := by
  unfold halt
  refine (yields_theRig _ _).andThen ?_
  rw [if_pos h]
  exact yields_pure _ _ _

/-- A running rig is halted for a reason. -/
theorem yields_halt_of_running (h : rig.state = .running) (reason : Option String) :
    Yields (halt reason) rig clock
      ⟨.ok (), { rig with state := .halted, haltReason := reason }, 0,
        [.halted reason rig.core.registers.pc]⟩ := by
  unfold halt
  refine (yields_theRig _ _).andThen ?_
  rw [if_neg (by simp [h])]
  refine (yields_change _ _ _).andThen ?_
  exact yields_note _ _ _

/-- A fault halts a running rig and is kept. -/
theorem yields_fail_of_running (h : rig.state = .running) (f : Fault) :
    Yields (fail f) rig clock
      ⟨.ok (), { rig with
          state := .halted
          haltReason := some f.describe
          lastError := some f },
        0, [.failed f, .halted (some f.describe) rig.core.registers.pc]⟩ := by
  unfold fail
  refine (yields_change _ _ _).andThen ?_
  exact .afterNote (yields_halt_of_running { rig with lastError := some f } clock h _)

end Bench

end SuperChip
