import SuperChip.Proofs.Machine.Moment

/-!
# Random bytes

One instruction asks the source of random bytes for the next byte. The source is no part of what a
program or a restart puts back, so that what a machine has taken from it counts the times that this
instruction was completed since the machine was switched on.

- `ByteCycle.advanced`: a cycle after so many bytes; `next_advanced` is the byte that comes then.
- `Moment.roll?`: the register and the mask of a step that completes the instruction for random
  bytes; `Machine.rolls`: the steps that do so.
- `Moment.rolled`, `Moment.random_of_not_rolled`: what a step takes from the source and what it
  makes of it.
- `Machine.random_respond`: an action that takes no steps takes nothing.
- `Machine.Rolled`: a machine has taken what its steps rolled, in order; `Rolled.step` is what a
  step keeps of it.
- `Machine.bytes_are_taken_in_order`: **a cycle is used up byte by byte, and only by the instruction
  for random bytes**.

About `FixedRandomSource.next_byte` and `op_rnd`.
-/

namespace SuperChip

/-! ## Cycles -/

namespace ByteCycle

variable {values : List Int}

/-- The cycle after so many bytes. -/
def advanced (c : ByteCycle) (n : Nat) : ByteCycle :=
  { c with position :=
      ⟨(c.position.val + n) % c.bytes.size, Nat.mod_lt _ (Nat.zero_lt_of_lt c.position.isLt)⟩ }

theorem advanced_zero (c : ByteCycle) : c.advanced 0 = c := by
  have hposition : (c.position.val + 0) % c.bytes.size = c.position.val :=
    Nat.mod_eq_of_lt c.position.isLt
  simp only [advanced, hposition]

/-- Taking a byte advances the cycle by one. -/
theorem next_advanced (c : ByteCycle) (n : Nat) : (c.advanced n).next.2 = c.advanced (n + 1) := by
  have hposition : ((c.position.val + n) % c.bytes.size + 1) % c.bytes.size =
      (c.position.val + (n + 1)) % c.bytes.size := by
    rw [Nat.mod_add_mod, Nat.add_assoc]
  simp only [advanced, next, hposition]

/-- There is a cycle through any integers but none. -/
theorem exists_ofIntegers? (h : values ≠ []) : ∃ c, ofIntegers? values = .ok c := by
  have hsize : 0 < (values.map UInt8.ofInt).toArray.size := by
    simpa [List.length_pos_iff] using h
  exact ⟨_, dif_pos hsize⟩

/-- The bytes of the cycle are the integers modulo 256, again and again. -/
theorem next_of_ofIntegers? {c : ByteCycle} (h : ofIntegers? values = .ok c) (n : Nat) :
    ∃ value, values[n % values.length]? = some value ∧
      ((c.advanced n).next.1.toNat : Int) = value % 256 := by
  unfold ofIntegers? ofList? at h
  split at h
  next hsize =>
    cases h
    have hpos : 0 < values.length := by simpa using hsize
    refine ⟨_, List.getElem?_eq_getElem (Nat.mod_lt n hpos), ?_⟩
    simp only [advanced, next, List.getElem_toArray, List.getElem_map, List.size_toArray,
      List.length_map, Nat.zero_add]
    exact toNat_ofInt_byte _
  next => cases h

end ByteCycle

/-! ## Steps -/

/-- The register and the mask of the instruction for random bytes. -/
def Instruction.roll? : Instruction → Option (Register × UInt8)
  | .rnd x mask => some (x, mask)
  | _ => none

/-- Only `RND` takes a byte. -/
theorem Instruction.roll?_eq_some_iff {i : Instruction} {x : Register} {mask : UInt8} :
    i.roll? = some (x, mask) ↔ i = .rnd x mask := by
  cases i <;> simp [roll?]

namespace Machine

namespace Moment

variable {q : Moment} {x : Register} {mask : UInt8}

/-- The register and the mask of a step that completes the instruction for random bytes. -/
def roll? (q : Moment) : Option (Register × UInt8) := q.completed?.bind (·.instruction.roll?)

/-- Such a step takes one byte from the source and leaves it under the mask in the register. -/
theorem rolled (hrange : q.before.core.InRange) (hrun : q.before.status = .running)
    (h : q.roll? = some (x, mask)) :
    q.after.core.random = q.before.core.random.next.2 ∧
      q.after.core.registers.get x = q.before.core.random.next.1 &&& mask := by
  cases q.ends hrange hrun with
  | failed f hfailed => simp [roll?, hfailed.completed?_eq_none] at h
  | completed d c hcompleted =>
    rw [roll?, hcompleted.completed?_eq_some, Option.bind_some, Instruction.roll?_eq_some_iff] at h
    have hpeek : q.ticked.peek = .ok d := hcompleted.peek
    have hstep := hcompleted.step_eq hrange hrun
    simp only [Core.step_eq (inRange_ticked hrange), hpeek, h, Instruction.refusal?,
      Prod.mk.injEq, true_and] at hstep
    rw [hcompleted.core_after, ← hstep]
    exact ⟨rfl, Registers.get_set_self _ _ _⟩

/-- Any other step takes nothing. -/
theorem random_of_not_rolled (hrange : q.before.core.InRange)
    (hrun : q.before.status = .running) (h : q.roll? = none) :
    q.after.core.random = q.before.core.random := by
  cases q.ends hrange hrun with
  | failed f hfailed =>
    rw [hfailed.core_after]
    rfl
  | completed d c hcompleted =>
    rw [roll?, hcompleted.completed?_eq_some, Option.bind_some] at h
    rw [hcompleted.core_after]
    refine hcompleted.touches.random fun x mask hi => ?_
    rw [Instruction.roll?_eq_some_iff.2 hi] at h
    cases h

end Moment

variable {m : Machine} {past : List Moment} {q : Moment} {x : Register} {mask : UInt8}

/-- An action that takes no steps takes nothing from the source, not even one that restarts. -/
theorem random_respond (clock : Clock) {a : Action} (ha : a.takesSteps = false) :
    (m.respond clock a).machine.core.random = m.core.random := by
  cases hrestarts : a.restarts with
  | false =>
    obtain ⟨memory, hcore, -⟩ := exists_core_respond (m := m) clock ha hrestarts
    rw [hcore]
  | true =>
    cases a with
    | load program => exact random_loadOn clock program
    | reset => rfl
    | _ => cases hrestarts

/-! ## Scripts -/

/-- The steps that complete the instruction for random bytes, with its register and its mask. -/
def rolls (past : List Moment) : List (Moment × Register × UInt8) :=
  past.filterMap fun q => q.roll?.map (q, ·)

theorem rolls_concat_of_none (h : q.roll? = none) : rolls (past ++ [q]) = rolls past := by
  simp [rolls, h]

theorem rolls_concat_of_some (h : q.roll? = some (x, mask)) :
    rolls (past ++ [q]) = rolls past ++ [(q, x, mask)] := by
  simp [rolls, h]

/-- A machine that came out of a setup has taken a byte from a cycle for every step that rolled, and
each of these steps has left its own byte. -/
structure Rolled (setup : Setup) (source : ByteCycle) (m : Machine) (past : List Moment) :
    Prop where
  made : MadeFrom setup m
  random : m.core.random = .cycle (source.advanced (rolls past).length)
  register : ∀ k q x mask, (rolls past)[k]? = some (q, x, mask) →
    q.after.core.registers.get x = (source.advanced k).next.1 &&& mask
  before : ∀ q ∈ past, q.before.core.InRange ∧ q.before.status = .running

section

variable {setup : Setup} {source : ByteCycle}

/-- A step keeps count of the bytes that were taken. -/
theorem Rolled.step (h : Rolled setup source q.before past) (hrun : q.before.status = .running) :
    Rolled setup source q.after (past ++ [q]) := by
  have hrange := h.made.keeps.core.toInRange
  have hmade : MadeFrom setup q.after := h.made.performed q.clock .step
  have hbefore : ∀ p ∈ past ++ [q], p.before.core.InRange ∧ p.before.status = .running := by
    intro p hp
    obtain hp | hp := List.mem_append.1 hp
    · exact h.before p hp
    · rw [List.mem_singleton.1 hp]
      exact ⟨hrange, hrun⟩
  cases hroll : q.roll? with
  | none =>
    have hkept := Moment.random_of_not_rolled hrange hrun hroll
    have hrolls : rolls (past ++ [q]) = rolls past := rolls_concat_of_none hroll
    refine ⟨hmade, ?_, ?_, hbefore⟩
    · rw [hkept, hrolls, h.random]
    · rw [hrolls]
      exact h.register
  | some roll =>
    obtain ⟨x, mask⟩ := roll
    obtain ⟨hrandom, hregister⟩ := Moment.rolled hrange hrun hroll
    have hrolls : rolls (past ++ [q]) = rolls past ++ [(q, x, mask)] := rolls_concat_of_some hroll
    rw [h.random] at hrandom hregister
    refine ⟨hmade, ?_, ?_, hbefore⟩
    · rw [hrandom, hrolls, List.length_append, List.length_singleton, ← source.next_advanced]
      rfl
    · intro k p y mask' hk
      rw [hrolls, List.getElem?_append] at hk
      split at hk
      · exact h.register k p y mask' hk
      next hge =>
        -- the new step is the last one that rolled
        obtain ⟨hlast, hp⟩ := List.getElem?_eq_some_iff.1 hk
        rw [List.length_singleton] at hlast
        have hlength : (rolls past).length = k := by omega
        simp only [List.getElem_singleton] at hp
        cases hp
        rw [hlength] at hregister
        exact hregister

/-- So does every history. -/
theorem Rolled.after (h : Rolled setup source m []) (history : List (Clock × Action)) :
    Rolled setup source (m.after history) (m.moments history) := by
  refine moments_preserve (P := Rolled setup source) (A := fun _ => True) ?_ ?_ h (by simp)
  · intro past q hrun hq
    exact hq.step hrun
  · intro n past clock a _ hsteps hn
    exact ⟨hn.made.performed clock a, (random_respond clock hsteps).trans hn.random, hn.register,
      hn.before⟩

end

/-- How the random bytes of a machine, made of a list of integers, are used up in a script. -/
structure TakesInOrder (values : List Int) (m : Machine) (history : List (Clock × Action)) :
    Prop where
  /-- Every step that rolls leaves the next integer modulo 256 under its mask. -/
  register : ∀ k q x mask, (rolls (m.moments history))[k]? = some (q, x, mask) →
    ∃ value, values[k % values.length]? = some value ∧
      (q.after.core.registers.get x).toNat = (value % 256).toNat &&& mask.toNat
  /-- It takes one byte, whatever the mask is. -/
  taken : ∀ q ∈ m.moments history, ∀ x mask, q.roll? = some (x, mask) →
    q.after.core.random = q.before.core.random.next.2
  /-- No other step takes any, whether it fails or completes an instruction. -/
  kept : ∀ q ∈ m.moments history, q.roll? = none →
    q.after.core.random = q.before.core.random
  /-- No other action takes any, as resetting and loading. -/
  others : ∀ before clock a, before ++ [(clock, a)] <+: history → a.takesSteps = false →
    ((m.after before).respond clock a).machine.core.random = (m.after before).core.random
  /-- The next byte to be taken is told by the number of steps that rolled. -/
  position : ∃ source, ByteCycle.ofIntegers? values = .ok source ∧
    (m.after history).core.random = .cycle (source.advanced (rolls (m.moments history)).length)

/-- **Random bytes are taken in order, and only by the instruction for them.** A cycle can be made
of any integers but none, and a machine that is switched on with it uses it up byte by byte in its
whole life, whatever is loaded, reset, stepped or run, and whatever fails. A step that completes the
instruction in the last word of the memory counts, although the machine halts after it. -/
theorem bytes_are_taken_in_order {values : List Int} (hne : values ≠ []) :
    ∃ source, ByteCycle.ofIntegers? values = .ok source ∧
      ∀ {setup : Setup} {clock : Clock} {printed : Bool} {o : Observed Machine},
        setup.random = .cycle source → switchOn setup clock printed = .ok o →
          ∀ history, o.value.TakesInOrder values history := by
  obtain ⟨source, hsource⟩ := ByteCycle.exists_ofIntegers? hne
  refine ⟨source, hsource, fun {setup clock printed o} hrandom hon history => ?_⟩
  have hstart : o.value.core.random = setup.random := by
    obtain ⟨-, trace, -, rfl⟩ := (switchOn_eq_ok_iff clock).1 hon
    rfl
  have h : Rolled setup source (o.value.after history) (o.value.moments history) := by
    refine Rolled.after ⟨.switchedOn hon, ?_, by simp [rolls], by simp⟩ history
    rw [hstart, hrandom]
    exact congrArg RandomSource.cycle source.advanced_zero.symm
  refine ⟨?_, ?_, ?_, fun before clock a _ ha => random_respond clock ha, _, hsource, h.random⟩
  · intro k q x mask hk
    obtain ⟨value, hvalue, hbyte⟩ := ByteCycle.next_of_ofIntegers? hsource k
    refine ⟨value, hvalue, ?_⟩
    rw [h.register k q x mask hk, UInt8.toNat_and, ← hbyte, Int.toNat_natCast]
  · intro q hq x mask hroll
    obtain ⟨hrange, hrun⟩ := h.before q hq
    exact (Moment.rolled hrange hrun hroll).1
  · intro q hq hroll
    obtain ⟨hrange, hrun⟩ := h.before q hq
    exact Moment.random_of_not_rolled hrange hrun hroll

/-- A program that asks for a byte under a mask gets the only one that there is. -/
theorem bytes_are_taken_in_order_of_one :
    let history : List (Clock × Action) :=
      [(.still 0, .load [0xC0, 0x0F]), (.still 0, .step)]
    let q : Moment := ⟨sample [0xC0, 0x0F], .still 0⟩
    ∃ o, switchOn sampleSetup (.still 0) false = .ok o ∧
      rolls (o.value.moments history) = [(q, 0, 0x0F)] ∧
      (q.after.core.registers.get 0).toNat = 10 ∧ o.value.TakesInOrder [346] history := by
  intro history q
  obtain ⟨o, hon, hloaded⟩ := exists_switchOn_sample [0xC0, 0x0F]
  obtain ⟨source, hsource, htakes⟩ :=
    bytes_are_taken_in_order (show [346] ≠ ([] : List Int) by decide)
  have hrandom : sampleSetup.random = .cycle source := by
    cases hsource
    rfl
  have hfit : [(0xC0 : UInt8), 0x0F].length ≤ programCapacity := by decide
  have hstands := standsAt_sample hfit
  have hcompleted := hstands.completed (.still 0) hfit (by decide)
    (d := ⟨0xC00F, .rnd 0 0x0F⟩) rfl rfl
  have hmoments : o.value.moments history = [q] := by
    show (o.value.after [(.still 0, .load [0xC0, 0x0F])]).moments [(.still 0, .step)] = [q]
    rw [hloaded, moments, momentsOf_of_running hstands.running]
    rfl
  have hroll : q.roll? = some (0, 0x0F) := by
    rw [Moment.roll?, hcompleted.completed?_eq_some]
    rfl
  have hrolls : rolls (o.value.moments history) = [(q, 0, 0x0F)] := by
    rw [hmoments]
    simp [rolls, hroll]
  have hall := htakes hrandom hon history
  obtain ⟨value, hvalue, hregister⟩ := hall.register 0 q 0 0x0F (by rw [hrolls]; rfl)
  cases hvalue
  exact ⟨o, hon, hrolls, hregister, hall⟩

end Machine

end SuperChip
