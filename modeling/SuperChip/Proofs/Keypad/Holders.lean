import Mathlib.Data.List.Induction
import Mathlib.Data.List.Nodup
import SuperChip.Keypad

/-!
# Who holds a key

A key of the keypad can be held by several keys of the host at once. The keypad keeps apart who
holds a key and whether it is down, and both follow from the calls since everyone let go.

- `Keypad.Call`: a call on a keypad; `Call.target?` is the key and the source that it is about.
- `Keypad.attempt`, `Keypad.after`: what a call makes of a keypad, and a row of calls.
- `Keypad.LastPressed`: the last call about a key and a source was a press.
- `Keypad.Sound`: the invariant of keypads, that a key is down if someone holds it;
  `sound_after` is a row of calls.
- `mem_holders_after`: **the holders of a key are the sources that pressed it last**.
- `down_iff_last_pressed`: **a key is down if there is such a source**, so that calls about
  different keys or sources can change places, and one release is enough.

About `Keypad.press_key`, `release_key`, `press`, `release` and `reset`.
-/

namespace SuperChip

namespace Keypad

/-- A call on a keypad. -/
inductive Call where
  | press (name : String)
  | release (name : String)
  | pressKey (key : Int) (source : String)
  | releaseKey (key : Int) (source : String)
  | reset
deriving DecidableEq, Repr

/-- Whether a call presses a key. -/
def Call.presses : Call → Bool
  | press _ | pressKey .. => true
  | release _ | releaseKey .. | reset => false

/-- The number of the key and the source that a call is about. Names go by their bindings, in lower
case, and one that is not bound is about nothing. -/
def Call.target? (bindings : List (String × Int)) : Call → Option (Int × String)
  | press name | release name =>
    (bindings.lookup (Text.lower name)).map (·, Text.lower name)
  | pressKey key source | releaseKey key source => some (key, source)
  | reset => none

/-- What a call makes of a keypad, or why it is refused. -/
def attempt (k : Keypad) : Call → Except Invalid Keypad
  | .press name => (k.press name).map (·.value.1)
  | .release name => (k.release name).map (·.value.1)
  | .pressKey key source => (k.pressKey key source).map (·.value)
  | .releaseKey key source => (k.releaseKey key source).map (·.value)
  | .reset => .ok k.reset

/-- The keypad after a call, which leaves it as it was if it is refused. -/
def perform (k : Keypad) (c : Call) : Keypad :=
  match k.attempt c with
  | .ok changed => changed
  | .error _ => k

/-- The keypad after one call after the other. -/
def after (k : Keypad) (calls : List Call) : Keypad := calls.foldl perform k

/-- A call neither lets everyone go nor is about a key and a source. -/
def Call.Spares (bindings : List (String × Int)) (key : Fin 16) (source : String) (c : Call) :
    Prop :=
  c ≠ .reset ∧ c.target? bindings ≠ some ((key.val : Int), source)

/-- The last call about a key and a source since the last reset was a press. -/
def LastPressed (bindings : List (String × Int)) (calls : List Call) (key : Fin 16)
    (source : String) : Prop :=
  ∃ earlier c later, calls = earlier ++ c :: later ∧ c.presses = true ∧
    c.target? bindings = some ((key.val : Int), source) ∧
      ∀ c' ∈ later, c'.Spares bindings key source

/-! ## One key -/

variable {k : Keypad} {key j : Fin 16} {source : String}

/-- An entry of a row of sixteen after one of them was replaced. -/
theorem get_setIfInBounds {α : Type} (row : Vector α 16) (key j : Fin 16) (a : α) :
    (row.setIfInBounds key.val a).get j = if key = j then a else row.get j := by
  have hget := @Vector.getElem_setIfInBounds _ _ j.val key.val row a j.isLt
  simp only [← Fin.ext_iff] at hget
  exact hget

/-- Turning a key leaves its holders. -/
theorem holders_turn (k : Keypad) (key : Fin 16) (down : Bool) :
    (k.turn key down).value.holders = k.holders := by
  unfold turn
  split <;> rfl

/-- A key that is turned is down or up as it is told, and the others stay. -/
theorem isDown_turn (k : Keypad) (key j : Fin 16) (down : Bool) :
    (k.turn key down).value.isDown j = if key = j then down else k.isDown j := by
  unfold turn
  split
  next h =>
    by_cases hj : key = j
    · rw [if_pos hj, ← hj]
      exact h
    · rw [if_neg hj]
      rfl
  · exact get_setIfInBounds k.pressed key j down

/-- A source that holds a key is one of its holders. -/
theorem holders_hold (k : Keypad) (key j : Fin 16) (source : String) :
    (k.hold key source).value.holders.get j =
      if key = j then (k.holders.get key).insert source else k.holders.get j := by
  rw [hold, holders_turn]
  exact get_setIfInBounds k.holders key j _

/-- A key that is held is down. -/
theorem isDown_hold (k : Keypad) (key j : Fin 16) (source : String) :
    (k.hold key source).value.isDown j = if key = j then true else k.isDown j :=
  isDown_turn _ _ _ _

/-- A source that lets go of a key is no holder of it any more. -/
theorem holders_letGo (k : Keypad) (key j : Fin 16) (source : String) :
    (k.letGo key source).value.holders.get j =
      if key = j then (k.holders.get key).erase source else k.holders.get j := by
  unfold letGo
  dsimp only
  split
  · rw [holders_turn]
    exact get_setIfInBounds k.holders key j _
  · exact get_setIfInBounds k.holders key j _

/-- A key is up once its last holder has let go of it. -/
theorem isDown_letGo (k : Keypad) (key j : Fin 16) (source : String) :
    (k.letGo key source).value.isDown j =
      if key = j ∧ (k.holders.get key).erase source = [] then false else k.isDown j := by
  unfold letGo
  dsimp only
  split
  next h =>
    rw [isDown_turn]
    simp only [List.isEmpty_iff.1 h, and_true]
    rfl
  next h =>
    rw [List.isEmpty_iff] at h
    rw [if_neg fun hboth => h hboth.2]
    rfl

theorem bindings_turn (k : Keypad) (key : Fin 16) (down : Bool) :
    (k.turn key down).value.bindings = k.bindings := by
  unfold turn
  split <;> rfl

theorem holders_ofBindings (bindings : List (String × Int)) (key : Fin 16) :
    (ofBindings bindings).holders.get key = [] := by
  show (Vector.replicate 16 [])[key.val] = _
  rw [Vector.getElem_replicate]

theorem isDown_ofBindings (bindings : List (String × Int)) (key : Fin 16) :
    (ofBindings bindings).isDown key = false := by
  show (Vector.replicate 16 false)[key.val] = _
  rw [Vector.getElem_replicate]

/-- A source holds a key or lets go of it. -/
def touch (k : Keypad) (presses : Bool) (key : Fin 16) (source : String) : Keypad :=
  if presses then (k.hold key source).value else (k.letGo key source).value

/-- Presses and releases leave the bindings. -/
theorem bindings_touch (presses : Bool) :
    (k.touch presses key source).bindings = k.bindings := by
  unfold touch
  split
  · exact bindings_turn _ _ _
  · unfold letGo
    dsimp only
    split
    · exact bindings_turn _ _ _
    · rfl

/-! ## The invariant -/

/-- No source holds a key twice, and a key is down if someone holds it. -/
structure Sound (k : Keypad) : Prop where
  nodup : ∀ key, (k.holders.get key).Nodup
  isDown_iff : ∀ key, k.isDown key = true ↔ k.holders.get key ≠ []

/-- A new keypad is sound, since nothing is held. -/
theorem sound_ofBindings (bindings : List (String × Int)) : (ofBindings bindings).Sound where
  nodup key := by
    rw [holders_ofBindings]
    exact List.nodup_nil
  isDown_iff key := by
    rw [holders_ofBindings, isDown_ofBindings]
    simp

theorem Sound.hold (h : k.Sound) (key : Fin 16) (source : String) :
    (k.hold key source).value.Sound where
  nodup j := by
    rw [holders_hold]
    split
    · exact (h.nodup key).insert
    · exact h.nodup j
  isDown_iff j := by
    rw [holders_hold, isDown_hold]
    by_cases hj : key = j
    · rw [if_pos hj, if_pos hj]
      exact iff_of_true rfl (List.ne_nil_of_mem (List.mem_insert_self))
    · rw [if_neg hj, if_neg hj]
      exact h.isDown_iff j

theorem Sound.letGo (h : k.Sound) (key : Fin 16) (source : String) :
    (k.letGo key source).value.Sound where
  nodup j := by
    rw [holders_letGo]
    split
    · exact (h.nodup key).erase source
    · exact h.nodup j
  isDown_iff j := by
    rw [holders_letGo, isDown_letGo]
    by_cases hj : key = j
    · subst hj
      by_cases hlast : (k.holders.get key).erase source = []
      · simp [hlast]
      · -- the others hold the key, so that it was down before
        have hheld : k.holders.get key ≠ [] := by
          intro hnone
          rw [hnone] at hlast
          exact hlast rfl
        rw [if_neg fun hboth => hlast hboth.2, if_pos rfl]
        exact iff_of_true ((h.isDown_iff key).2 hheld) hlast
    · rw [if_neg fun hboth => hj hboth.1, if_neg hj]
      exact h.isDown_iff j

/-- A press or a release keeps a keypad sound. -/
theorem Sound.touch (h : k.Sound) (presses : Bool) (key : Fin 16) (source : String) :
    (k.touch presses key source).Sound := by
  cases presses with
  | true => exact h.hold key source
  | false => exact h.letGo key source

/-- Touching a key settles whether the source holds it, and nothing else. -/
theorem Sound.mem_holders_touch (h : k.Sound) (presses : Bool) (key j : Fin 16)
    (source other : String) :
    other ∈ (k.touch presses key source).holders.get j ↔
      if key = j ∧ source = other then presses = true else other ∈ k.holders.get j := by
  by_cases hj : key = j
  · subst hj
    cases presses with
    | true =>
      show other ∈ (k.hold key source).value.holders.get key ↔ _
      rw [holders_hold, if_pos rfl, List.mem_insert_iff]
      by_cases hs : source = other <;> simp [hs, eq_comm]
    | false =>
      show other ∈ (k.letGo key source).value.holders.get key ↔ _
      rw [holders_letGo, if_pos rfl, (h.nodup key).mem_erase_iff]
      by_cases hs : source = other <;> simp [hs, eq_comm]
  · have hsame : (k.touch presses key source).holders.get j = k.holders.get j := by
      cases presses with
      | true => exact (holders_hold k key j source).trans (if_neg hj)
      | false => exact (holders_letGo k key j source).trans (if_neg hj)
    rw [hsame, if_neg fun hboth => hj hboth.1]

/-! ## Calls -/

/-- A call about a key and a source is that source holding the key or letting go of it. -/
theorem attempt_of_target {c : Call} {number : Int}
    (h : c.target? k.bindings = some (number, source)) :
    k.attempt c = (key? number).map (k.touch c.presses · source) := by
  cases c with
  | press name | release name =>
    obtain ⟨bound, hlookup, htarget⟩ := Option.map_eq_some_iff.1 h
    cases htarget
    have hbound : k.lookup name = some number := hlookup
    simp only [attempt, press, release, hbound, pressKey, releaseKey]
    cases key? number <;> rfl
  | pressKey number' source' | releaseKey number' source' =>
    cases h
    simp only [attempt, pressKey, releaseKey]
    cases key? number <;> rfl
  | reset => cases h

/-- A call about nothing leaves the keypad as it is. -/
theorem attempt_of_no_target {c : Call} (hreset : c ≠ .reset)
    (h : c.target? k.bindings = none) : k.attempt c = .ok k := by
  cases c with
  | press name | release name =>
    have hunbound : k.lookup name = none := Option.map_eq_none_iff.1 h
    simp only [attempt, press, release, hunbound]
    rfl
  | pressKey number source | releaseKey number source => cases h
  | reset => exact absurd rfl hreset

/-- **A call is refused exactly if the key that it is about does not exist.** -/
theorem attempt_eq_error_iff {c : Call} {e : Invalid} :
    k.attempt c = .error e ↔ ∃ number source, c.target? k.bindings = some (number, source) ∧
      ¬ (0 ≤ number ∧ number < 16) ∧ e = .keyIndex number := by
  cases htarget : c.target? k.bindings with
  | none =>
    have hok : ∃ k', k.attempt c = .ok k' := by
      by_cases hreset : c = .reset
      · exact ⟨k.reset, by rw [hreset]; rfl⟩
      · exact ⟨k, attempt_of_no_target hreset htarget⟩
    obtain ⟨k', hk'⟩ := hok
    rw [hk']
    exact ⟨nofun, fun ⟨_, _, hsome, _⟩ => nomatch hsome⟩
  | some target =>
    obtain ⟨number, source⟩ := target
    rw [attempt_of_target htarget, key?]
    by_cases hnumber : 0 ≤ number ∧ number < 16
    · rw [dif_pos hnumber]
      refine ⟨nofun, ?_⟩
      rintro ⟨_, _, hsame, hno, -⟩
      cases hsame
      exact absurd hnumber hno
    · rw [dif_neg hnumber]
      constructor
      · intro h
        cases h
        exact ⟨number, source, rfl, hnumber, rfl⟩
      · rintro ⟨_, _, hsame, -, rfl⟩
        cases hsame
        rfl

/-- What a call makes of a keypad. -/
theorem perform_cases (k : Keypad) (c : Call) :
    (c = .reset ∧ k.perform c = ofBindings k.bindings) ∨
      (c ≠ .reset ∧ (∀ (key : Fin 16) source,
        c.target? k.bindings ≠ some ((key.val : Int), source)) ∧ k.perform c = k) ∨
      ∃ (key : Fin 16) (source : String), c.target? k.bindings = some ((key.val : Int), source) ∧
        k.perform c = k.touch c.presses key source := by
  by_cases hreset : c = .reset
  · exact .inl ⟨hreset, by rw [hreset]; rfl⟩
  right
  cases htarget : c.target? k.bindings with
  | none =>
    rw [perform, attempt_of_no_target hreset htarget]
    exact .inl ⟨hreset, fun _ _ => nofun, rfl⟩
  | some target =>
    obtain ⟨number, source⟩ := target
    rw [perform, attempt_of_target htarget, key?]
    by_cases hnumber : 0 ≤ number ∧ number < 16
    · rw [dif_pos hnumber]
      refine .inr ⟨⟨number.toNat, by omega⟩, source, ?_, rfl⟩
      rw [Int.toNat_of_nonneg hnumber.1]
    · rw [dif_neg hnumber]
      refine .inl ⟨hreset, fun key source' hsame => hnumber ?_, rfl⟩
      cases hsame
      omega

/-- A call leaves the bindings. -/
theorem bindings_perform (k : Keypad) (c : Call) : (k.perform c).bindings = k.bindings := by
  obtain ⟨-, h⟩ | ⟨-, -, h⟩ | ⟨key, source, -, h⟩ := k.perform_cases c
  · rw [h]
    rfl
  · rw [h]
  · rw [h, bindings_touch]

/-- A call keeps a keypad sound. -/
theorem Sound.perform (h : k.Sound) (c : Call) : (k.perform c).Sound := by
  obtain ⟨-, hc⟩ | ⟨-, -, hc⟩ | ⟨key, source, -, hc⟩ := k.perform_cases c
  · rw [hc]
    exact sound_ofBindings _
  · rwa [hc]
  · rw [hc]
    exact h.touch _ key source

/-- A source holds a key after a call if the call was its press of the key, or if it held the key
before and the call spares both. -/
theorem Sound.mem_holders_perform (h : k.Sound) (c : Call) (key : Fin 16) (source : String) :
    source ∈ (k.perform c).holders.get key ↔
      (c.presses = true ∧ c.target? k.bindings = some ((key.val : Int), source)) ∨
        (source ∈ k.holders.get key ∧ c.Spares k.bindings key source) := by
  obtain ⟨rfl, hc⟩ | ⟨hreset, htarget, hc⟩ | ⟨key', source', htarget, hc⟩ := k.perform_cases c
  · rw [hc, holders_ofBindings]
    simp [Call.Spares, Call.presses]
  · rw [hc]
    simp [Call.Spares, hreset, htarget key source]
  · have hreset : c ≠ .reset := by
      rintro rfl
      cases htarget
    have hsame_iff : some ((key'.val : Int), source') = some ((key.val : Int), source) ↔
        key' = key ∧ source' = source := by
      rw [Option.some_inj, Prod.mk.injEq, Int.ofNat_inj, Fin.ext_iff]
    rw [hc, h.mem_holders_touch, Call.Spares, htarget, ne_eq, ne_eq, hsame_iff]
    by_cases hsame : key' = key ∧ source' = source
    · simp [hsame]
    · simp [hsame, hreset]

/-! ## Rows of calls -/

theorem after_append (k : Keypad) (calls later : List Call) :
    k.after (calls ++ later) = (k.after calls).after later :=
  List.foldl_append

theorem bindings_after (k : Keypad) (calls : List Call) :
    (k.after calls).bindings = k.bindings := by
  induction calls generalizing k with
  | nil => rfl
  | cons c rest ih => exact (ih (k.perform c)).trans (bindings_perform k c)

/-- So do all calls. -/
theorem sound_after (h : k.Sound) (calls : List Call) : (k.after calls).Sound := by
  induction calls generalizing k with
  | nil => exact h
  | cons c rest ih => exact ih (h.perform c)

variable {bindings : List (String × Int)} {calls later : List Call}

/-- Before the first call nothing was pressed. -/
theorem not_lastPressed_nil : ¬ LastPressed bindings [] key source := by
  rintro ⟨earlier, c, later, hcalls, -⟩
  simp at hcalls

theorem lastPressed_singleton_iff {c : Call} :
    LastPressed bindings [c] key source ↔
      c.presses = true ∧ c.target? bindings = some ((key.val : Int), source) := by
  constructor
  · rintro ⟨earlier, c', later, hcalls, hpresses, htarget, -⟩
    obtain ⟨-, rfl, -⟩ : earlier = [] ∧ c = c' ∧ later = [] := by
      cases earlier <;> simp_all
    exact ⟨hpresses, htarget⟩
  · rintro ⟨hpresses, htarget⟩
    exact ⟨[], c, [], rfl, hpresses, htarget, nofun⟩

/-- The last press is among the later calls, or it is among the calls before and those spare it. -/
theorem lastPressed_append_iff :
    LastPressed bindings (calls ++ later) key source ↔
      LastPressed bindings later key source ∨
        (LastPressed bindings calls key source ∧ ∀ c ∈ later, c.Spares bindings key source) := by
  constructor
  · rintro ⟨earlier, c, rest, hcalls, hpresses, htarget, hspares⟩
    obtain ⟨between, rfl, hlater⟩ | ⟨between, rfl, hlater⟩ := List.append_eq_append_iff.1 hcalls
    · exact .inl ⟨between, c, rest, hlater, hpresses, htarget, hspares⟩
    · cases between with
      | nil => exact .inl ⟨[], c, rest, hlater.symm, hpresses, htarget, hspares⟩
      | cons c' between =>
        obtain ⟨rfl, rfl⟩ := List.cons.inj hlater
        refine .inr ⟨⟨earlier, c, between, rfl, hpresses, htarget, ?_⟩, ?_⟩
        · exact fun c' hc' => hspares c' (List.mem_append_left _ hc')
        · exact fun c' hc' => hspares c' (List.mem_append_right _ hc')
  · rintro (⟨earlier, c, rest, rfl, hpresses, htarget, hspares⟩ |
      ⟨⟨earlier, c, rest, rfl, hpresses, htarget, hspares⟩, hlater⟩)
    · exact ⟨calls ++ earlier, c, rest, by rw [List.append_assoc], hpresses, htarget, hspares⟩
    · refine ⟨earlier, c, rest ++ later, by rw [List.append_assoc, List.cons_append], hpresses,
        htarget, fun c' hc' => ?_⟩
      obtain hc' | hc' := List.mem_append.1 hc'
      · exact hspares c' hc'
      · exact hlater c' hc'

/-- **The holders of a key are the sources whose last call about it was a press.** -/
theorem mem_holders_after (bindings : List (String × Int)) (calls : List Call) (key : Fin 16)
    (source : String) :
    source ∈ ((ofBindings bindings).after calls).holders.get key ↔
      LastPressed bindings calls key source := by
  -- the induction takes the last call off, which decides unless it spares the source
  induction calls using List.reverseRecOn with
  | nil =>
    refine iff_of_false ?_ not_lastPressed_nil
    show source ∉ (ofBindings bindings).holders.get key
    rw [holders_ofBindings]
    exact List.not_mem_nil
  | append_singleton calls c ih =>
    have hsound := sound_after (sound_ofBindings bindings) calls
    have hbindings : ((ofBindings bindings).after calls).bindings = bindings :=
      bindings_after _ calls
    rw [after_append]
    show source ∈ (((ofBindings bindings).after calls).perform c).holders.get key ↔ _
    rw [hsound.mem_holders_perform, hbindings, ih, lastPressed_append_iff,
      lastPressed_singleton_iff]
    simp

/-- A key is down as long as a source holds it. -/
theorem isDown_after_iff (bindings : List (String × Int)) (calls : List Call) (key : Fin 16) :
    ((ofBindings bindings).after calls).isDown key = true ↔
      ∃ source, LastPressed bindings calls key source := by
  rw [(sound_after (sound_ofBindings bindings) calls).isDown_iff]
  simp only [← mem_holders_after]
  exact ⟨List.exists_mem_of_ne_nil _, fun ⟨_, hmem⟩ => List.ne_nil_of_mem hmem⟩

/-- The keys that are down only depend on the last calls. -/
theorem snapshot_after_congr {calls' : List Call}
    (h : ∀ key source, LastPressed bindings calls key source ↔
      LastPressed bindings calls' key source) :
    ((ofBindings bindings).after calls).snapshot =
      ((ofBindings bindings).after calls').snapshot := by
  have hdown (key : Fin 16) : ((ofBindings bindings).after calls).isDown key =
      ((ofBindings bindings).after calls').isDown key := by
    rw [Bool.eq_iff_iff, isDown_after_iff, isDown_after_iff]
    exact exists_congr (h key)
  rw [snapshot, snapshot, funext hdown]

/-! ## What follows for calls in another order -/

/-- Calls before and behind others only matter through the last calls. -/
theorem lastPressed_congr {middle middle' : List Call}
    (hpressed : ∀ key source, LastPressed bindings middle key source ↔
      LastPressed bindings middle' key source)
    (hspares : ∀ key source, (∀ c ∈ middle, c.Spares bindings key source) ↔
      ∀ c ∈ middle', c.Spares bindings key source) (key : Fin 16) (source : String) :
    LastPressed bindings (calls ++ (middle ++ later)) key source ↔
      LastPressed bindings (calls ++ (middle' ++ later)) key source := by
  simp only [lastPressed_append_iff, List.forall_mem_append, hpressed, hspares]

/-- Two calls about different keys or sources can change places. -/
theorem snapshot_after_swap {c d : Call} (hc : c ≠ .reset) (hd : d ≠ .reset)
    (h : c.target? bindings ≠ d.target? bindings) :
    ((ofBindings bindings).after (calls ++ ([c, d] ++ later))).snapshot =
      ((ofBindings bindings).after (calls ++ ([d, c] ++ later))).snapshot := by
  -- a press of one of them is spared by the other
  have hpressed {c d : Call} (hd : d ≠ .reset) (h : c.target? bindings ≠ d.target? bindings)
      (key : Fin 16) (source : String) :
      LastPressed bindings [c] key source →
        LastPressed bindings [c] key source ∧ ∀ e ∈ [d], e.Spares bindings key source := by
    intro hlast
    refine ⟨hlast, fun e he => ?_⟩
    rw [List.mem_singleton.1 he]
    refine ⟨hd, fun htarget => h ?_⟩
    rw [htarget, (lastPressed_singleton_iff.1 hlast).2]
  refine snapshot_after_congr (lastPressed_congr (fun key source => ?_) fun key source => ?_)
  · have hcd := hpressed (c := c) hd h key source
    have hdc := hpressed (c := d) hc h.symm key source
    have happend (a b : Call) : [a, b] = [a] ++ [b] := rfl
    rw [happend, happend, lastPressed_append_iff, lastPressed_append_iff]
    exact ⟨fun hl => hl.elim (fun hd => .inr (hdc hd)) fun hc => .inl hc.1,
      fun hl => hl.elim (fun hc => .inr (hcd hc)) fun hd => .inl hd.1⟩
  · simp [and_comm]

/-- Of several calls about one key and one source only the last one counts. -/
theorem snapshot_after_repeated {repeated : List Call} {r : Call} {target : Int × String}
    (hrepeated : ∀ c ∈ repeated, c.target? bindings = some target)
    (htarget : r.target? bindings = some target) :
    ((ofBindings bindings).after (calls ++ (repeated ++ [r] ++ later))).snapshot =
      ((ofBindings bindings).after (calls ++ ([r] ++ later))).snapshot := by
  have hreset {c : Call} (h : c.target? bindings = some target) : c ≠ .reset := by
    rintro rfl
    cases h
  have hspares {c : Call} (h : c.target? bindings = some target) (key : Fin 16) (source : String) :
      c.Spares bindings key source ↔ target ≠ ((key.val : Int), source) := by
    rw [Call.Spares, h]
    simp [hreset h]
  refine snapshot_after_congr (lastPressed_congr (fun key source => ?_) fun key source => ?_)
  · rw [lastPressed_append_iff]
    refine ⟨fun hlast => hlast.elim id ?_, .inl⟩
    -- the last press of the source would be one of those that the last call is about
    rintro ⟨⟨earlier, c, rest, rfl, -, hc, -⟩, hsparing⟩
    have hne := (hspares htarget key source).1 (hsparing r (.head _))
    have hsame := hrepeated c (List.mem_append_right _ (.head _))
    exact absurd (Option.some.inj (hsame.symm.trans hc)) hne
  · simp only [List.forall_mem_append, List.forall_mem_singleton, hspares htarget]
    refine ⟨And.right, fun hne => ⟨fun p hp => ?_, hne⟩⟩
    exact (hspares (hrepeated p hp) key source).2 hne

/-- A key that every source let go of is up. -/
theorem isDown_after_eq_false (key : Fin 16)
    (h : ∀ earlier c later source, calls = earlier ++ c :: later → c.presses = true →
      c.target? bindings = some ((key.val : Int), source) →
        ∃ r ∈ later, r.presses = false ∧ r.target? bindings = some ((key.val : Int), source)) :
    ((ofBindings bindings).after calls).isDown key = false := by
  rw [Bool.eq_false_iff]
  intro hdown
  obtain ⟨source, earlier, c, later, hcalls, hpresses, htarget, hspares⟩ :=
    (isDown_after_iff bindings calls key).1 hdown
  obtain ⟨r, hr, -, hrelease⟩ := h earlier c later source hcalls hpresses htarget
  exact (hspares r hr).2 hrelease

/-! ## Everything together -/

/-- **A key is down if there is a source whose last call about it since the last reset was a
press.** A call is refused exactly if it is about a key that does not exist; then, and if it names a
key of the host that is not bound, it changes nothing. Calls about different keys or sources can
change places, several presses need one release, and no key stays down when all sources let go. -/
theorem down_iff_last_pressed (bindings : List (String × Int)) (calls : List Call) :
    (∀ key, ((ofBindings bindings).after calls).isDown key = true ↔
        ∃ source, LastPressed bindings calls key source) ∧
      (∀ c e, ((ofBindings bindings).after calls).attempt c = .error e ↔
        ∃ number source, c.target? bindings = some (number, source) ∧
          ¬ (0 ≤ number ∧ number < 16) ∧ e = .keyIndex number) ∧
      (∀ c, (∃ e, ((ofBindings bindings).after calls).attempt c = .error e) ∨
          (c ≠ .reset ∧ c.target? bindings = none) →
        ((ofBindings bindings).after calls).perform c = (ofBindings bindings).after calls) ∧
      (∀ c d later, c ≠ .reset → d ≠ .reset → c.target? bindings ≠ d.target? bindings →
        ((ofBindings bindings).after (calls ++ ([c, d] ++ later))).snapshot =
          ((ofBindings bindings).after (calls ++ ([d, c] ++ later))).snapshot) ∧
      (∀ presses release target later,
        (∀ p ∈ presses, p.presses = true ∧ p.target? bindings = some target) →
        release.presses = false → release.target? bindings = some target →
        ((ofBindings bindings).after (calls ++ (presses ++ [release] ++ later))).snapshot =
          ((ofBindings bindings).after (calls ++ ([release] ++ later))).snapshot) ∧
      ∀ key : Fin 16,
        (∀ earlier c later source, calls = earlier ++ c :: later → c.presses = true →
          c.target? bindings = some ((key.val : Int), source) →
          ∃ r ∈ later, r.presses = false ∧
            r.target? bindings = some ((key.val : Int), source)) →
        ((ofBindings bindings).after calls).isDown key = false := by
  have hbindings : ((ofBindings bindings).after calls).bindings = bindings :=
    bindings_after _ calls
  refine ⟨isDown_after_iff bindings calls, fun c e => ?_, fun c hc => ?_,
    fun c d later => snapshot_after_swap,
    fun presses release target later hpresses _ => snapshot_after_repeated fun p hp =>
      (hpresses p hp).2,
    isDown_after_eq_false⟩
  · rw [attempt_eq_error_iff, hbindings]
  · obtain ⟨e, he⟩ | ⟨hreset, htarget⟩ := hc
    · rw [perform, he]
    · rw [perform, attempt_of_no_target hreset (hbindings.symm ▸ htarget)]

/-- Two keys of the host are bound to one key, which stays down when only one of them lets go. -/
theorem down_iff_last_pressed_of_shared_key :
    let bindings : List (String × Int) := [("a", 5), ("left", 5)]
    let calls : List Call := [.press "A", .press "left", .release "a"]
    LastPressed bindings calls 5 "left" ∧
      ((ofBindings bindings).after calls).isDown 5 = true ∧
      ((ofBindings bindings).after (calls ++ [.release "left"])).isDown 5 = false := by
  intro bindings calls
  have hlast : LastPressed bindings calls 5 "left" := by
    refine ⟨[.press "A"], .press "left", [.release "a"], rfl, rfl, by decide, fun c hc => ?_⟩
    rw [List.mem_singleton.1 hc]
    exact ⟨nofun, by decide⟩
  exact ⟨hlast, ((down_iff_last_pressed bindings calls).1 5).2 ⟨_, hlast⟩, by decide⟩

end Keypad

end SuperChip
