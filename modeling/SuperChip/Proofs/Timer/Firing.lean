import Mathlib.Data.Rat.Floor
import Mathlib.Tactic.Linarith
import SuperChip.Timer

/-!
# When a timer fires

A timer fires at the first clock reading that finds a period passed since it last fired, and it
measures the next period from that reading, not from the moment at which it was due. What lies
between the two is lost. The clock is an exact one here: it shows rational numbers.

- `Timer.tickAll`, `Timer.firings`: a timer that looks at the clock again and again, and the
  readings at which it fires; `toNat_value_tickAll`: it counts once at each of them.
- `Timer.Punctual`: less than a period has passed since the timer fired. `Punctual.tick` is one more
  reading, `punctual_tickAll` a whole sequence of them.
- `firings_keep_rate`: **between two firings lies a period at least, and at most the longest gap
  between two readings more**.
- `Timer.Ahead`: the first of two timers has fired before the second one does; `ahead_firings`: it
  stays ahead as long as it looks at every reading of the second one.
- `denser_readings_fire_no_later`: **looking at the clock more often never slows a timer down**.

About `CountdownTimer.tick`.
-/

namespace SuperChip.Timer

/-! ## Looking at the clock again and again -/

section

variable {τ : Type} [Sub τ] [LE τ] [DecidableLE τ] (t : Timer τ)

/-- A timer that looks at one clock reading after the other. -/
def tickAll (readings : List τ) : Timer τ := readings.foldl tick t

/-- The clock readings at which a timer fires. -/
def firings (t : Timer τ) : List τ → List τ
  | [] => []
  | now :: rest =>
    if (t.tick now).fired then now :: (t.tick now).firings rest else (t.tick now).firings rest

theorem tickAll_cons (now : τ) (rest : List τ) :
    t.tickAll (now :: rest) = (t.tick now).tickAll rest := rfl

variable {t} {now : τ}

/-- A timer that is due fires and counts down. -/
theorem tick_of_due (h : t.due now = true) :
    t.tick now = { t with lastFire := now, fired := true, value := countDown t.value } :=
  if_pos h

/-- One that is not waits. -/
theorem tick_of_not_due (h : t.due now = false) : t.tick now = { t with fired := false } :=
  if_neg (Bool.eq_false_iff.1 h)

theorem period_tick : (t.tick now).period = t.period := by
  unfold tick
  split <;> rfl

theorem period_tickAll (readings : List τ) : (t.tickAll readings).period = t.period := by
  induction readings generalizing t with
  | nil => rfl
  | cons now rest ih => rw [tickAll_cons, ih, period_tick]

/-- A reading at which a timer is due is one of its firings. -/
theorem firings_of_due (h : t.due now = true) (rest : List τ) :
    t.firings (now :: rest) = now :: (t.tick now).firings rest := by
  rw [firings, if_pos]
  rw [tick_of_due h]

/-- One at which it is not is none. -/
theorem firings_of_not_due (h : t.due now = false) (rest : List τ) :
    t.firings (now :: rest) = (t.tick now).firings rest := by
  rw [firings, if_neg]
  rw [tick_of_not_due h]
  exact Bool.false_ne_true

variable (t) in
/-- A timer counts once whenever it fires, and stays at zero. -/
theorem toNat_value_tickAll (readings : List τ) :
    (t.tickAll readings).value.toNat = t.value.toNat - (t.firings readings).length := by
  induction readings generalizing t with
  | nil => rfl
  | cons now rest ih =>
    rw [tickAll_cons, ih]
    cases h : t.due now with
    | true =>
      rw [firings_of_due h, tick_of_due h, List.length_cons]
      show (countDown t.value).toNat - _ = _
      rw [toNat_countDown]
      omega
    | false => rw [firings_of_not_due h, tick_of_not_due h]

end

/-! ## The rate -/

/-- A clock reading comes no earlier than another one, and no more than a gap later. -/
def Follows (gap earlier later : ℚ) : Prop := earlier ≤ later ∧ later - earlier ≤ gap

instance (gap : ℚ) : DecidableRel (Follows gap) :=
  fun _ _ => inferInstanceAs (Decidable (_ ∧ _))

/-- The timer last fired no later than at a clock reading, and less than a period ago. -/
structure Punctual (t : Timer ℚ) (now : ℚ) : Prop where
  lastFire_le : t.lastFire ≤ now
  lt_period : now - t.lastFire < t.period

variable {t : Timer ℚ} {gap before now : ℚ}

/-- A timer is due once its period has passed. -/
theorem due_iff : t.due now = true ↔ t.period ≤ now - t.lastFire := decide_eq_true_iff

theorem due_eq_false_iff : t.due now = false ↔ now - t.lastFire < t.period := by
  rw [← not_le, ← due_iff, Bool.not_eq_true]

/-- **At the next reading the timer is punctual again**, since it fires there if it has to. -/
theorem Punctual.tick (hperiod : 0 < t.period) (h : t.Punctual before)
    (hnow : Follows gap before now) : (t.tick now).Punctual now := by
  cases hdue : t.due now with
  | true =>
    rw [tick_of_due hdue]
    exact ⟨le_refl now, by rwa [sub_self]⟩
  | false =>
    rw [tick_of_not_due hdue]
    exact ⟨h.lastFire_le.trans hnow.1, due_eq_false_iff.1 hdue⟩

/-- A punctual timer fires at the next reading a period after it last fired, or at most a gap
later. -/
theorem Punctual.lastFire_bounds (h : t.Punctual before) (hnow : Follows gap before now)
    (hdue : t.due now = true) :
    t.lastFire + t.period ≤ now ∧ now ≤ t.lastFire + (t.period + gap) := by
  have hpassed := due_iff.1 hdue
  have hpending := h.lt_period
  obtain ⟨-, hgap⟩ := hnow
  constructor
  · linarith
  · linarith

/-- A punctual timer stays so over a whole sequence of readings. Each of its firings brings it
forward by a period at least, and at most a gap more. -/
theorem punctual_tickAll {readings : List ℚ} (hperiod : 0 < t.period) (h : t.Punctual before)
    (hreadings : List.IsChain (Follows gap) (before :: readings)) :
    (t.tickAll readings).Punctual (readings.getLastD before) ∧
      t.lastFire + (t.firings readings).length * t.period ≤ (t.tickAll readings).lastFire ∧
      (t.tickAll readings).lastFire ≤
        t.lastFire + (t.firings readings).length * (t.period + gap) := by
  -- the timer, and the reading that it looked at last, are others after each reading
  induction readings generalizing t before with
  | nil =>
    refine ⟨h, ?_, ?_⟩
    · simp [firings, tickAll]
    · simp [firings, tickAll]
  | cons now rest ih =>
    obtain ⟨hnow, hrest⟩ := List.isChain_cons_cons.1 hreadings
    have hperiod' : 0 < (t.tick now).period := by rwa [period_tick]
    obtain ⟨hlast, hlower, hupper⟩ := ih hperiod' (h.tick hperiod hnow) hrest
    rw [period_tick] at hlower hupper
    rw [tickAll_cons, List.getLastD_cons]
    refine ⟨hlast, ?_⟩
    cases hdue : t.due now with
    | true =>
      obtain ⟨hearly, hlate⟩ := h.lastFire_bounds hnow hdue
      have hfired : (t.tick now).lastFire = now := by rw [tick_of_due hdue]
      rw [hfired] at hlower hupper
      rw [firings_of_due hdue, List.length_cons]
      push_cast
      constructor
      · linarith
      · linarith
    | false =>
      have hkept : (t.tick now).lastFire = t.lastFire := by rw [tick_of_not_due hdue]
      rw [hkept] at hlower hupper
      rw [firings_of_not_due hdue]
      exact ⟨hlower, hupper⟩

/-- **A timer fires once per period, as far as its readings let it.** When they begin where it
last fired, never go back and leave no more than a gap between two of them, it fires at least once
in a period and a gap and at most once in a period, and counts down as often. -/
theorem firings_keep_rate (t : Timer ℚ) (hperiod : 0 < t.period) (hgap : 0 ≤ gap)
    {readings : List ℚ} (hreadings : List.IsChain (Follows gap) (t.lastFire :: readings)) :
    let last := readings.getLastD t.lastFire
    ⌊(last - t.lastFire) / (t.period + gap)⌋ ≤ ((t.firings readings).length : ℤ) ∧
      ((t.firings readings).length : ℤ) ≤ ⌊(last - t.lastFire) / t.period⌋ ∧
      (t.tickAll readings).value.toNat = t.value.toNat - (t.firings readings).length := by
  intro last
  have hstart : t.Punctual t.lastFire := ⟨le_refl _, by rwa [sub_self]⟩
  obtain ⟨⟨hpast, hpending⟩, hlower, hupper⟩ := punctual_tickAll hperiod hstart hreadings
  have hkept : (t.tickAll readings).period = t.period := period_tickAll readings
  rw [hkept] at hpending
  refine ⟨?_, ?_, t.toNat_value_tickAll readings⟩
  · -- the time since the last firing is less than one more period
    rw [Int.floor_le_iff, div_lt_iff₀ (by linarith)]
    push_cast
    linarith
  · rw [Int.le_floor, le_div_iff₀ hperiod]
    push_cast
    linarith

/-- A timer of sixty firings per second that is looked at a hundred times per second. It fires at
every second reading, and so five times in a tenth of a second instead of six times. -/
theorem firings_keep_rate_of_sample :
    let t : Timer ℚ := .start (1 / 60) 0 3
    let readings : List ℚ := [1 / 100, 2 / 100, 3 / 100, 4 / 100, 5 / 100, 6 / 100, 7 / 100,
      8 / 100, 9 / 100, 10 / 100]
    List.IsChain (Follows (1 / 100)) (t.lastFire :: readings) ∧
      (t.firings readings).length = 5 ∧
      ⌊(10 / 100 - t.lastFire) / (t.period + 1 / 100)⌋ ≤ ((t.firings readings).length : ℤ) ∧
      ((t.firings readings).length : ℤ) ≤ ⌊(10 / 100 - t.lastFire) / t.period⌋ ∧
      (t.tickAll readings).value.toNat = 3 - (t.firings readings).length := by
  intro t readings
  have hreadings : List.IsChain (Follows (1 / 100)) (t.lastFire :: readings) := by decide +kernel
  have hcount : (t.firings readings).length = 5 := by decide +kernel
  exact ⟨hreadings, hcount, t.firings_keep_rate (by decide +kernel) (by decide +kernel) hreadings⟩

/-! ## More readings -/

/-- The first of two rows of firings is ahead of the second: each firing of the second row has one
of the first row beside it that is no later. -/
inductive Ahead : List ℚ → List ℚ → Prop
  | nil (early : List ℚ) : Ahead early []
  | cons {a b : ℚ} {early late : List ℚ} (h : a ≤ b) (rest : Ahead early late) :
      Ahead (a :: early) (b :: late)

/-- What is ahead is as long at least. -/
theorem Ahead.length_le {early late : List ℚ} (h : Ahead early late) :
    late.length ≤ early.length := by
  induction h with
  | nil early => exact Nat.zero_le _
  | cons h rest ih => exact Nat.succ_le_succ ih

/-- What is ahead comes no later, firing by firing. -/
theorem Ahead.exists_le {early late : List ℚ} (h : Ahead early late) {k : Nat} {b : ℚ}
    (hb : late[k]? = some b) : ∃ a, early[k]? = some a ∧ a ≤ b := by
  induction h generalizing k with
  | nil early => cases hb
  | cons h rest ih =>
    cases k with
    | zero =>
      cases hb
      exact ⟨_, rfl, h⟩
    | succ k => exact ih hb

/-- A quick timer leads a slow one of the same period. The firings that the slow one has not matched
yet lie in the past, and unless the quick one fired last at one of these, it did so no later than
the slow one. -/
structure Leads (quick slow : Timer ℚ) (unmatched future : List ℚ) : Prop where
  period : quick.period = slow.period
  past : ∀ early ∈ unmatched, ∀ now ∈ future, early ≤ now
  lastFire : quick.lastFire ≤ slow.lastFire ∨ quick.lastFire ∈ unmatched

variable {quick slow : Timer ℚ} {unmatched future : List ℚ}

/-- The quick timer looks at a reading. If it fires there, that is one more firing to match. -/
theorem Leads.tick (h : Leads quick slow unmatched (now :: future))
    (hfuture : ∀ later ∈ future, now ≤ later) :
    ∃ unmatched', Leads (quick.tick now) slow unmatched' future ∧
      (∀ early ∈ unmatched', early ≤ now) ∧
      unmatched ++ quick.firings (now :: future) =
        unmatched' ++ (quick.tick now).firings future := by
  have hpast : ∀ early ∈ unmatched, early ≤ now := fun early he => h.past early he now (.head _)
  have hrest : ∀ early ∈ unmatched, ∀ later ∈ future, early ≤ later :=
    fun early he later hl => h.past early he later (.tail _ hl)
  cases hdue : quick.due now with
  | true =>
    have hmem : ∀ early ∈ unmatched ++ [now], early ∈ unmatched ∨ early = now := by simp
    refine ⟨unmatched ++ [now], ⟨period_tick.trans h.period, ?_, ?_⟩, ?_, ?_⟩
    · intro early he
      rcases hmem early he with hold | rfl
      · exact hrest early hold
      · exact hfuture
    · right
      rw [tick_of_due hdue]
      exact List.mem_append_right _ (.head _)
    · intro early he
      rcases hmem early he with hold | rfl
      · exact hpast early hold
      · exact le_refl early
    · rw [firings_of_due hdue, List.append_assoc, List.singleton_append]
  | false =>
    refine ⟨unmatched, ⟨period_tick.trans h.period, hrest, ?_⟩, hpast, ?_⟩
    · rw [tick_of_not_due hdue]
      exact h.lastFire
    · rw [firings_of_not_due hdue]

/-- The slow timer fires at a reading at which the quick one has nothing left to do. Then there is a
firing that it has not matched. -/
theorem Leads.matched (hperiod : 0 < slow.period) (h : Leads quick slow unmatched future)
    (hpast : ∀ early ∈ unmatched, early ≤ now) (hquick : quick.due now = false)
    (hslow : slow.due now = true) :
    ∃ early rest, unmatched = early :: rest ∧ early ≤ now ∧
      Leads quick (slow.tick now) rest future := by
  have hpassed := due_iff.1 hslow
  have hlater : slow.lastFire < now := sub_pos.1 (lt_of_lt_of_le hperiod hpassed)
  have hpending := due_eq_false_iff.1 hquick
  rw [h.period] at hpending
  cases unmatched with
  | nil =>
    -- the quick timer fired no later than the slow one, and so it would be due as well
    rcases h.lastFire with hle | hmem
    · exact absurd hpending (by linarith)
    · cases hmem
  | cons early rest =>
    refine ⟨early, rest, rfl, hpast early (.head _), h.period.trans period_tick.symm, ?_, ?_⟩
    · intro a ha
      exact h.past a (.tail _ ha)
    · left
      rw [tick_of_due hslow]
      show quick.lastFire ≤ now
      rcases h.lastFire with hle | hmem
      · exact hle.trans hlater.le
      · exact hpast _ hmem

/-- A timer that has just looked at a reading is not due there. -/
theorem due_tick_self (hperiod : 0 < t.period) : (t.tick now).due now = false := by
  cases hdue : t.due now with
  | true =>
    rw [tick_of_due hdue, due_eq_false_iff, sub_self]
    exact hperiod
  | false => rwa [tick_of_not_due hdue]

/-- **A quick timer that looks at every reading of a slow one stays ahead of it.** -/
theorem ahead_firings {sparse dense : List ℚ} (hperiod : 0 < slow.period)
    (h : Leads quick slow unmatched dense) (hsub : sparse.Sublist dense)
    (hsorted : dense.Pairwise (· ≤ ·)) :
    Ahead (unmatched ++ quick.firings dense) (slow.firings sparse) := by
  induction hsub generalizing quick slow unmatched with
  | slnil => exact .nil _
  | cons now _ ih =>
    -- the reading is one that only the quick timer looks at
    obtain ⟨hfuture, hrest⟩ := List.pairwise_cons.1 hsorted
    obtain ⟨unmatched', hleads, -, hfirings⟩ := h.tick hfuture
    rw [hfirings]
    exact ih hperiod hleads hrest
  | @cons_cons sparse dense now _ ih =>
    obtain ⟨hfuture, hrest⟩ := List.pairwise_cons.1 hsorted
    obtain ⟨unmatched', hleads, hpast, hfirings⟩ := h.tick hfuture
    have hperiod' : 0 < (slow.tick now).period := by rwa [period_tick]
    have hquick : (quick.tick now).due now = false := due_tick_self (by rwa [h.period])
    rw [hfirings]
    cases hslow : slow.due now with
    | true =>
      obtain ⟨early, rest, rfl, hearly, hnext⟩ := hleads.matched hperiod hpast hquick hslow
      rw [firings_of_due hslow]
      exact .cons hearly (ih hperiod' hnext hrest)
    | false =>
      have hnext : Leads (quick.tick now) (slow.tick now) unmatched' dense := by
        rw [tick_of_not_due hslow]
        exact ⟨hleads.period, hleads.past, hleads.lastFire⟩
      rw [firings_of_not_due hslow]
      exact ih hperiod' hnext hrest

/-- **Looking at the clock more often never slows a timer down.** Of two timers in the same state
one looks at all readings of the other, and at more. Then it has fired as often up to any moment, it
has counted as far down, and none of its firings comes later than the same one of the other. -/
theorem denser_readings_fire_no_later (t : Timer ℚ) (hperiod : 0 < t.period)
    {sparse dense : List ℚ} (hsub : sparse.Sublist dense) (hsorted : dense.Pairwise (· ≤ ·)) :
    (∀ now : ℚ,
      (t.firings (sparse.filter (· ≤ now))).length ≤ (t.firings (dense.filter (· ≤ now))).length ∧
        (t.tickAll (dense.filter (· ≤ now))).value ≤
          (t.tickAll (sparse.filter (· ≤ now))).value) ∧
      ∀ (k : Nat) (late : ℚ), (t.firings sparse)[k]? = some late →
        ∃ early, (t.firings dense)[k]? = some early ∧ early ≤ late := by
  have hstart : ∀ future, Leads t t [] future := fun _ => ⟨rfl, nofun, .inl (le_refl _)⟩
  constructor
  · intro now
    have hahead := ahead_firings hperiod (hstart _) (hsub.filter (· ≤ now)) (hsorted.filter _)
    have hlength := hahead.length_le
    refine ⟨hlength, ?_⟩
    rw [UInt8.le_iff_toNat_le, toNat_value_tickAll, toNat_value_tickAll]
    exact Nat.sub_le_sub_left hlength _
  · intro k late hlate
    exact (ahead_firings hperiod (hstart _) hsub hsorted).exists_le hlate

/-- Two timers of one firing per second. The one that looks at the clock after one second fires
there, and has nothing to do half a second later, when the other one fires for the first time. -/
theorem denser_readings_fire_no_later_of_sample :
    let t : Timer ℚ := .start 1 0 9
    let sparse : List ℚ := [3 / 2, 3]
    let dense : List ℚ := [1, 3 / 2, 3]
    sparse.Sublist dense ∧ dense.Pairwise (· ≤ ·) ∧ t.firings sparse = [3 / 2, 3] ∧
      t.firings dense = [1, 3] ∧
      (t.tickAll (dense.filter (· ≤ 1))).value ≤ (t.tickAll (sparse.filter (· ≤ 1))).value ∧
      ∃ early, (t.firings dense)[0]? = some early ∧ early ≤ 3 / 2 := by
  intro t sparse dense
  have hsub : sparse.Sublist dense := List.sublist_cons_self _ _
  have hsorted : dense.Pairwise (· ≤ ·) := by decide +kernel
  obtain ⟨hcount, hfirings⟩ := t.denser_readings_fire_no_later (by decide +kernel) hsub hsorted
  have hsparse : t.firings sparse = [3 / 2, 3] := by decide +kernel
  refine ⟨hsub, hsorted, hsparse, by decide +kernel, (hcount 1).2, ?_⟩
  exact hfirings 0 (3 / 2) (by rw [hsparse]; rfl)

end SuperChip.Timer
