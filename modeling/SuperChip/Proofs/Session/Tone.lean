import SuperChip.Beeper

/-!
# Switching the tone

The tone is heard on channels of the host. What is heard can be told from the calls that the host
got, and the calls that a beeper makes are few.

- `Host.log`, `Host.plays`: the calls in order, and the channels that play after them.
- `Host.Quiet`: a host that was asked for nothing meanwhile.
- `Switching`: the calls that switch a tone, with the channel held before and after them.
- `Beeper.SwitchSpec`: what switching a beeper makes of it and of its host; `switchSpec`: **there is
  nothing else**.
- `Beeper.SwitchSpec.switching`: **a beeper makes no other calls**.
- `Beeper.InTune`: a tone that is on is heard on the channel held, and nothing else is heard;
  `SwitchSpec.inTune`: **so it stays as long as a channel is always found**.
-/

namespace SuperChip

/-! ## What the host was asked for -/

/-- An answer is given for ever. -/
def Answers.Always {α : Type} (a : Answers α) (answer : α) : Prop :=
  a.current = answer ∧ ∀ other ∈ a.later, other = answer

/-- An answer that is always given is given next, and always afterwards. -/
theorem Answers.Always.next {α : Type} {a : Answers α} {answer : α} (h : a.Always answer) :
    a.next.1 = answer ∧ a.next.2.Always answer := by
  obtain ⟨hcurrent, hlater⟩ := h
  unfold Answers.next
  cases hrest : a.later with
  | nil => exact ⟨hcurrent, hcurrent, hlater⟩
  | cons other rest =>
    rw [hrest] at hlater
    obtain ⟨hother, hrest⟩ := List.forall_mem_cons.1 hlater
    exact ⟨hcurrent, hother, hrest⟩

/-- Whether a call lets a channel play or stops one. -/
def Call.isHeard : Call → Bool
  | play _ | stop _ => true
  | _ => false

namespace Host

/-- The calls made so far, in order. -/
def log (h : Host) : List Call := h.calls.reverse

/-- Whether a channel plays after calls, the latest of which comes first. -/
def playsAfter (channel : Nat) : List Call → Bool
  | [] => false
  | .play c :: earlier => c == channel || playsAfter channel earlier
  | .stop c :: earlier => c != channel && playsAfter channel earlier
  | _ :: earlier => playsAfter channel earlier

/-- Whether a channel plays. -/
def plays (h : Host) (channel : Nat) : Bool := playsAfter channel h.calls

/-- A host was asked for nothing, and no channel was looked for. -/
structure Quiet (h h' : Host) : Prop where
  calls : h'.calls = h.calls
  freeChannels : h'.freeChannels = h.freeChannels

variable {h h' h'' : Host}

/-- A call is the last of the log. -/
theorem log_call (c : Call) : (h.call c).log = h.log ++ [c] := List.reverse_cons

/-- A channel plays from its start on, up to its stop. -/
theorem plays_call (c : Call) (channel : Nat) : (h.call c).plays channel =
    match c with
    | .play c => c == channel || h.plays channel
    | .stop c => c != channel && h.plays channel
    | _ => h.plays channel := by
  cases c <;> rfl

/-- Calls that are not heard leave what plays. -/
theorem playsAfter_append_of_unheard (channel : Nat) {calls earlier : List Call}
    (hunheard : ∀ c ∈ calls, c.isHeard = false) :
    playsAfter channel (calls ++ earlier) = playsAfter channel earlier := by
  induction calls with
  | nil => rfl
  | cons c rest ih =>
    obtain ⟨hc, hrest⟩ := List.forall_mem_cons.1 hunheard
    rw [← ih hrest]
    cases c with
    | play | stop => cases hc
    | _ => rfl

/-- Calls that are not heard change nothing about what plays. -/
theorem plays_of_log_eq {calls : List Call} (hlog : h'.log = h.log ++ calls)
    (hunheard : ∀ c ∈ calls, c.isHeard = false) (channel : Nat) :
    h'.plays channel = h.plays channel := by
  have hcalls : h'.calls = calls.reverse ++ h.calls := by
    simpa [log] using congrArg List.reverse hlog
  rw [plays, hcalls]
  exact playsAfter_append_of_unheard channel (by simpa using hunheard)

/-- Looking for a channel is a call, and uses up an answer. -/
theorem of_findChannel {channel : Option Nat} (hfound : h.findChannel = (channel, h')) :
    h'.calls = .findChannel :: h.calls ∧ h'.freeChannels = h.freeChannels.next.2 ∧
      channel.isSome = h.freeChannels.next.1 := by
  unfold findChannel at hfound
  cases hfree : h.freeChannels.next with
  | mk free later =>
    simp only [hfree] at hfound
    cases free with
    | true =>
      cases hfound
      exact ⟨rfl, rfl, rfl⟩
    | false =>
      cases hfound
      exact ⟨rfl, rfl, rfl⟩

/-- A channel is asked for once. -/
theorem log_of_findChannel {channel : Option Nat} (hfound : h.findChannel = (channel, h')) :
    h'.log = h.log ++ [.findChannel] := by
  rw [log, (of_findChannel hfound).1]
  exact List.reverse_cons

namespace Quiet

theorem refl (h : Host) : h.Quiet h := ⟨rfl, rfl⟩

theorem trans (hfirst : h.Quiet h') (hnext : h'.Quiet h'') : h.Quiet h'' :=
  ⟨hnext.calls.trans hfirst.calls, hnext.freeChannels.trans hfirst.freeChannels⟩

theorem log (hq : h.Quiet h') : h'.log = h.log := congrArg List.reverse hq.calls

theorem plays (hq : h.Quiet h') (channel : Nat) : h'.plays channel = h.plays channel :=
  congrArg (playsAfter channel) hq.calls

end Quiet

/-- Printing is quiet. -/
theorem quiet_printAll (lines : List String) : h.Quiet (h.printAll lines) := by
  rw [printAll_eq]
  exact ⟨rfl, rfl⟩

theorem quiet_observe (events : List Event) : h.Quiet (h.observe events) := quiet_printAll _

/-- The audio device is looked at without a call that counts. -/
theorem quiet_sampleRate {rate : Option Int} (hasked : h.sampleRate = (rate, h')) : h.Quiet h' := by
  cases hasked
  exact ⟨rfl, rfl⟩

/-- So is what happens before a frame. -/
theorem quiet_await (p : Pass) : h.Quiet (h.await p) := by
  obtain ⟨now, files, hawait⟩ := h.exists_await_eq p
  rw [hawait]
  exact ⟨rfl, rfl⟩

end Host

/-! ## Switching -/

/-- The calls that switch a tone of a volume on or off, with the channel held before and after
them. -/
inductive Switching (volume : Float) : Bool → Option Nat → List Call → Option Nat → Prop
  /-- Nothing is to be done. -/
  | stays (active : Bool) (held : Option Nat) : Switching volume active held [] held
  /-- The tone starts on the channel held. -/
  | resumes (c : Nat) :
    Switching volume true (some c) [.play c, .volume c volume] (some c)
  /-- The tone starts on a channel that is found. -/
  | finds (c : Nat) :
    Switching volume true none [.findChannel, .play c, .volume c volume] (some c)
  /-- There is no channel. -/
  | misses : Switching volume true none [.findChannel] none
  /-- The tone ends. -/
  | stops (c : Nat) : Switching volume false (some c) [.stop c] (some c)

/-- Switching the tone off stops the channel that plays, if one does. -/
theorem Switching.ending {volume : Float} {held held' : Option Nat} {tone : List Call}
    (h : Switching volume false held tone held') :
    tone = [] ∨ ∃ c, held = some c ∧ tone = [.stop c] := by
  cases h with
  | stays => exact .inl rfl
  | stops c => exact .inr ⟨c, rfl, rfl⟩

namespace Beeper

variable {b b' : Beeper} {h h' : Host} {active : Bool}

/-- Making a beeper prepares its sound, or asks for nothing if it fails. -/
theorem of_create {setup : Setup} {made : Except BeeperError Beeper}
    (hmade : create setup h = (made, h')) :
    (∃ samples, made = .ok ⟨samples, clampVolume setup.volume, none, false⟩ ∧
        h'.log = h.log ++ [.sound samples] ∧ h'.freeChannels = h.freeChannels) ∨
      ∃ e, made = .error e ∧ h.Quiet h' := by
  unfold create at hmade
  cases hasked : h.sampleRate with
  | mk rate asked =>
    have hq := Host.quiet_sampleRate hasked
    simp only [hasked] at hmade
    split at hmade
    · cases hmade
      exact .inr ⟨_, rfl, .refl h⟩
    split at hmade
    · cases hmade
      exact .inr ⟨_, rfl, hq⟩
    split at hmade
    · cases hmade
      exact .inr ⟨_, rfl, hq⟩
    split at hmade
    · cases hmade
      exact .inr ⟨_, rfl, hq⟩
    · cases hmade
      exact .inl ⟨_, rfl, by rw [Host.log_call, hq.log], hq.freeChannels⟩

/-- What switching a beeper on or off makes of it and of its host. -/
inductive SwitchSpec (b : Beeper) (h : Host) : Bool → Beeper → Host → Prop
  | stays : SwitchSpec b h b.active b h
  | resumes (c : Nat) (hoff : b.active = false) (hheld : b.channel = some c) (told : Host)
      (hq : h.Quiet told) :
    SwitchSpec b h true { b with channel := some c, active := true }
      ((told.call (.play c)).call (.volume c b.volume))
  | finds (c : Nat) (hoff : b.active = false) (hheld : b.channel = none) (told found : Host)
      (hq : h.Quiet told) (hfound : told.findChannel = (some c, found)) :
    SwitchSpec b h true { b with channel := some c, active := true }
      ((found.call (.play c)).call (.volume c b.volume))
  | misses (hoff : b.active = false) (hheld : b.channel = none) (told found : Host)
      (hq : h.Quiet told) (hfound : told.findChannel = (none, found)) :
    SwitchSpec b h true { b with active := true } found
  | stops (c : Nat) (hon : b.active = true) (hheld : b.channel = some c) (told : Host)
      (hq : h.Quiet told) :
    SwitchSpec b h false { b with active := false } (told.call (.stop c))
  | ceases (hon : b.active = true) (hheld : b.channel = none) (told : Host) (hq : h.Quiet told) :
    SwitchSpec b h false { b with active := false } told

theorem room_play (b : Beeper) (h : Host) : (b.play h).2.room = h.room := by
  unfold play takeChannel
  cases b.channel with
  | some channel => rfl
  | none =>
    unfold Host.findChannel
    dsimp only
    cases h.freeChannels.next.1 <;> rfl

/-- Switching the tone takes up none of the room of the host. -/
theorem room_setActive (b : Beeper) (active : Bool) (h : Host) :
    (b.setActive active h).2.room = h.room := by
  have htold : (h.observe [.tone active]).room = h.room := by
    rw [Host.observe, Host.printAll_eq]
  unfold setActive
  split
  · rfl
  refine Eq.trans ?_ htold
  cases active with
  | true => exact room_play _ _
  | false =>
    show ({ b with active := false }.silence _).room = _
    unfold silence
    cases b.channel <;> rfl

/-- Switching the tone makes the calls that it takes and no others. -/
theorem switchSpec (b : Beeper) (active : Bool) (h : Host) :
    b.SwitchSpec h active (b.setActive active h).1 (b.setActive active h).2 := by
  unfold setActive
  by_cases hsame : active = b.active
  · rw [if_pos hsame, hsame]
    exact .stays
  · rw [if_neg hsame]
    have hq := Host.quiet_observe (h := h) [.tone active]
    -- the channel held decides which calls are made
    obtain ⟨samples, volume, held, on⟩ := b
    cases active with
    | true =>
      have hoff : on = false := by simpa using Ne.symm hsame
      cases held with
      | some c => exact .resumes c hoff rfl _ hq
      | none =>
        cases hfound : (h.observe [.tone true]).findChannel with
        | mk channel found =>
          simp only [if_true, play, takeChannel, hfound]
          cases channel with
          | some c => exact .finds c hoff rfl _ found hq hfound
          | none => exact .misses hoff rfl _ found hq hfound
    | false =>
      have hon : on = true := by simpa using Ne.symm hsame
      cases held with
      | some c => exact .stops c hon rfl _ hq
      | none => exact .ceases hon rfl _ hq

theorem SwitchSpec.active_eq (hs : b.SwitchSpec h active b' h') : b'.active = active := by
  cases hs <;> rfl

theorem SwitchSpec.volume_eq (hs : b.SwitchSpec h active b' h') : b'.volume = b.volume := by
  cases hs <;> rfl

/-- **A beeper makes no other calls.** -/
theorem SwitchSpec.switching (hs : b.SwitchSpec h active b' h') :
    ∃ tone, Switching b.volume active b.channel tone b'.channel ∧ h'.log = h.log ++ tone := by
  cases hs with
  | stays => exact ⟨[], .stays _ _, by simp⟩
  | resumes c hoff hheld told hq =>
    refine ⟨[.play c, .volume c b.volume], ?_, ?_⟩
    · rw [hheld]
      exact .resumes c
    · simp [Host.log_call, hq.log]
  | finds c hoff hheld told found hq hfound =>
    refine ⟨[.findChannel, .play c, .volume c b.volume], ?_, ?_⟩
    · rw [hheld]
      exact .finds c
    · simp [Host.log_call, Host.log_of_findChannel hfound, hq.log]
  | misses hoff hheld told found hq hfound =>
    refine ⟨[.findChannel], ?_, ?_⟩
    · rw [hheld]
      exact .misses
    · simp [Host.log_of_findChannel hfound, hq.log]
  | stops c hon hheld told hq =>
    refine ⟨[.stop c], ?_, ?_⟩
    · rw [hheld]
      exact .stops c
    · simp [Host.log_call, hq.log]
  | ceases hon hheld told hq => exact ⟨[], .stays _ _, by simp [hq.log]⟩

/-! ## What is heard -/

/-- A tone that is on is heard on the channel held, nothing else is heard, and a channel will be
found. -/
structure InTune (b : Beeper) (h : Host) : Prop where
  free : h.freeChannels.Always true
  held : b.active = true → ∃ c, b.channel = some c
  plays_iff : ∀ c, h.plays c = true ↔ b.active = true ∧ b.channel = some c

/-- A channel plays if and only if the tone is on. -/
theorem InTune.exists_plays_iff (ht : b.InTune h) : (∃ c, h.plays c = true) ↔ b.active = true := by
  constructor
  · rintro ⟨c, hc⟩
    exact ((ht.plays_iff c).1 hc).1
  · intro hon
    obtain ⟨c, hheld⟩ := ht.held hon
    exact ⟨c, (ht.plays_iff c).2 ⟨hon, hheld⟩⟩

/-- No channel plays while it is off. -/
theorem InTune.silent (ht : b.InTune h) (hoff : b.active = false) (c : Nat) :
    h.plays c = false := by
  simpa [hoff] using ht.plays_iff c

theorem InTune.quiet (ht : b.InTune h) (hq : h.Quiet h') : b.InTune h' where
  free := hq.freeChannels ▸ ht.free
  held := ht.held
  plays_iff c := by
    rw [hq.plays]
    exact ht.plays_iff c

/-- A call that is not heard keeps it in tune. -/
theorem InTune.call (ht : b.InTune h) {c : Call} (hc : c.isHeard = false) :
    b.InTune (h.call c) where
  free := ht.free
  held := ht.held
  plays_iff channel := by
    rw [Host.plays_of_log_eq (Host.log_call c) (by simpa using hc)]
    exact ht.plays_iff channel

/-- **So it stays, whether the tone is switched on or off.** -/
theorem SwitchSpec.inTune (hs : b.SwitchSpec h active b' h') (ht : b.InTune h) : b'.InTune h' := by
  cases hs with
  | stays => exact ht
  | resumes c hoff hheld told hq =>
    refine ⟨hq.freeChannels ▸ ht.free, fun _ => ⟨c, rfl⟩, fun c' => ?_⟩
    simp [Host.plays_call, hq.plays, ht.silent hoff]
  | finds c hoff hheld told found hq hfound =>
    obtain ⟨hcalls, hlater, -⟩ := Host.of_findChannel hfound
    refine ⟨?_, fun _ => ⟨c, rfl⟩, fun c' => ?_⟩
    · show found.freeChannels.Always true
      rw [hlater, hq.freeChannels]
      exact ht.free.next.2
    · have hsilent : found.plays c' = false := by
        rw [Host.plays, hcalls]
        exact (hq.plays c').trans (ht.silent hoff c')
      simp [Host.plays_call, hsilent]
  | misses hoff hheld told found hq hfound =>
    -- this would need an answer that is not given
    obtain ⟨-, -, hmissed⟩ := Host.of_findChannel hfound
    rw [hq.freeChannels, ht.free.next.1] at hmissed
    cases hmissed
  | stops c hon hheld told hq =>
    refine ⟨hq.freeChannels ▸ ht.free, nofun, fun c' => ?_⟩
    have honly : h.plays c' = true → c = c' := fun hplays =>
      Option.some.inj (hheld.symm.trans ((ht.plays_iff c').1 hplays).2)
    rw [Host.plays_call, hq.plays]
    cases hplays : h.plays c' with
    | false => simp
    | true => simp [honly hplays]
  | ceases hon hheld told hq =>
    obtain ⟨c, hc⟩ := ht.held hon
    cases hheld.symm.trans hc

end Beeper

end SuperChip
