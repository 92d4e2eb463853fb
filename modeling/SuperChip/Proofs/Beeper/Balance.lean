import SuperChip.Proofs.Double.Order
import SuperChip.Proofs.Session.Tone

/-!
# Tones that end

A beeper is switched on and off and shut down in any order, and each time it looks for a channel it
may find one or none. Whatever becomes of that, every tone that it starts is the one that it ends.

- `Beeper.Request`, `Beeper.respond`, `Beeper.serve`: what a beeper is asked for, once and many
  times.
- `Melody`: the calls of a beeper since it was made, with the channel that plays after them.
- `InTurn`: calls that start and end one tone after the other; `SetsVolume`: calls that set the
  volume of each. `Melody.inTurn`, `Melody.setsVolume` and `Melody.plays_iff` are what a melody is
  heard as.
- `Beeper.Responded`: what one request makes of a beeper; `exists_responded`: **there is nothing
  else**.
- `Beeper.Sings`: a beeper whose calls are a melody; `Sings.serve`: **so they stay**.
- `Beeper.tone_is_balanced`: **what is heard of a beeper, and when it looks for a channel**.

About `SquareWaveBeeper.set_active` and `shutdown`.
-/

namespace SuperChip

/-- The call with other channels in the place of those that it names. Channels are numbered as they
are found, and the same one may be found again. -/
def Call.renamed (name : Nat → Nat) : Call → Call
  | play c => play (name c)
  | volume c v => volume (name c) v
  | stop c => stop (name c)
  | c => c

/-! ## Melodies -/

/-- The calls of a beeper of a volume, with the channel that plays after them. -/
inductive Melody (volume : Float) : Option Nat → List Call → Prop
  | silence : Melody volume none []
  | searched {calls : List Call} (h : Melody volume none calls) :
    Melody volume none (calls ++ [.findChannel])
  | started {calls : List Call} (c : Nat) (h : Melody volume none calls) :
    Melody volume (some c) (calls ++ [.play c, .volume c volume])
  | stopped {calls : List Call} {c : Nat} (h : Melody volume (some c) calls) :
    Melody volume none (calls ++ [.stop c])

/-- Tones start and end in turn from silence on, and each ends on the channel that it started on.
The channel that plays at last is told. -/
inductive InTurn : List Call → Option Nat → Prop
  | silence : InTurn [] none
  | starts (c : Nat) : InTurn [.play c] (some c)
  | ends (c : Nat) {rest : List Call} {playing : Option Nat} (h : InTurn rest playing) :
    InTurn (.play c :: .stop c :: rest) playing

namespace InTurn

variable {calls : List Call}

/-- A channel starts while none plays. -/
theorem play {playing : Option Nat} (h : InTurn calls playing) (hsilent : playing = none)
    (c : Nat) : InTurn (calls ++ [.play c]) (some c) := by
  induction h with
  | silence => exact .starts c
  | starts c' => cases hsilent
  | ends c' h ih => exact .ends c' (ih hsilent)

/-- The channel that plays stops. -/
theorem stop {playing : Option Nat} (h : InTurn calls playing) {c : Nat}
    (hplays : playing = some c) : InTurn (calls ++ [.stop c]) none := by
  induction h with
  | silence => cases hplays
  | starts c' =>
    cases hplays
    exact .ends c .silence
  | ends c' h ih => exact .ends c' (ih hplays)

end InTurn

/-- Every start is directly followed by setting the volume on the same channel. -/
def SetsVolume (volume : Float) (calls : List Call) : Prop :=
  ∀ k c, calls[k]? = some (.play c) → calls[k + 1]? = some (.volume c volume)

namespace SetsVolume

variable {volume : Float} {calls later : List Call}

/-- The volume is set in one part of the calls and in the other. -/
theorem append (h : SetsVolume volume calls) (hlater : SetsVolume volume later) :
    SetsVolume volume (calls ++ later) := by
  intro k c hk
  obtain hlt | hge := Nat.lt_or_ge k calls.length
  · rw [List.getElem?_append_left hlt] at hk
    obtain ⟨hnext, -⟩ := List.getElem?_eq_some_iff.1 (h k c hk)
    rw [List.getElem?_append_left hnext, h k c hk]
  · rw [List.getElem?_append_right hge] at hk
    rw [List.getElem?_append_right (Nat.le_succ_of_le hge), Nat.succ_sub hge]
    exact hlater _ c hk

/-- Where nothing is started there is no volume to set. -/
theorem of_not_mem (h : ∀ c, .play c ∉ calls) : SetsVolume volume calls :=
  fun _ c hk => absurd (List.mem_of_getElem? hk) (h c)

theorem start (c : Nat) : SetsVolume volume [.play c, .volume c volume] := by
  intro k c' hk
  -- only the first of the two calls is a start
  match k with
  | 0 =>
    cases hk
    rfl
  | 1 => cases hk
  | k + 2 => cases hk

end SetsVolume

namespace Melody

variable {volume : Float} {playing : Option Nat} {calls : List Call}

/-- A melody is one on whatever channels it is played. -/
theorem renamed (h : Melody volume playing calls) (name : Nat → Nat) :
    Melody volume (playing.map name) (calls.map (Call.renamed name)) := by
  induction h with
  | silence => exact .silence
  | searched h ih =>
    rw [List.map_append]
    exact .searched ih
  | started c h ih =>
    rw [List.map_append]
    exact .started (name c) ih
  | stopped h ih =>
    rw [List.map_append]
    exact .stopped ih

/-- What is heard of a melody are tones that start and end in turn. -/
theorem inTurn (h : Melody volume playing calls) : InTurn (calls.filter Call.isHeard) playing := by
  induction h with
  | silence => exact .silence
  | searched h ih =>
    rw [List.filter_append]
    simpa [Call.isHeard] using ih
  | started c h ih =>
    rw [List.filter_append]
    exact ih.play rfl c
  | stopped h ih =>
    rw [List.filter_append]
    exact ih.stop rfl

/-- The volume is set right after every start. -/
theorem setsVolume (h : Melody volume playing calls) : SetsVolume volume calls := by
  induction h with
  | silence => exact .of_not_mem (by simp)
  | searched h ih => exact ih.append (.of_not_mem (by simp))
  | started c h ih => exact ih.append (.start c)
  | stopped h ih => exact ih.append (.of_not_mem (by simp))

/-- The channel that plays is the one that was started last and not stopped. -/
theorem plays_iff (h : Melody volume playing calls) (c : Nat) :
    Host.playsAfter c calls.reverse = true ↔ playing = some c := by
  induction h with
  | silence => simp [Host.playsAfter]
  | searched h ih => simpa [Host.playsAfter] using ih
  | started c' h ih => simp_all [Host.playsAfter]
  | @stopped calls c' h ih =>
    simp only [List.reverse_append, List.reverse_cons, List.reverse_nil, List.nil_append,
      List.singleton_append, Host.playsAfter, Bool.and_eq_true, bne_iff_ne, ih, Option.some.injEq]
    simp

end Melody

namespace Beeper

/-! ## Volumes -/

/-- The volume of a beeper lies between zero and one, and is the one asked for if that lies there
and is neither. -/
theorem clampVolume_spec (v : Float) :
    0.0 ≤ clampVolume v ∧ clampVolume v ≤ 1.0 ∧ (0.0 < v → v < 1.0 → clampVolume v = v) := by
  have hzero : (0.0 : Float) ≤ 0.0 ∧ (0.0 : Float) ≤ 1.0 := by decide
  have hone : (0.0 : Float) < 1.0 ∧ (1.0 : Float) ≤ 1.0 := by decide
  unfold clampVolume
  dsimp only
  by_cases hbelow : v < 1.0
  · rw [if_pos hbelow]
    by_cases habove : 0.0 < v
    · rw [if_pos habove]
      exact ⟨Double.le_of_lt habove, Double.le_of_lt hbelow, fun _ _ => rfl⟩
    · rw [if_neg habove]
      exact ⟨hzero.1, hzero.2, fun h _ => absurd h habove⟩
  · rw [if_neg hbelow, if_pos hone.1]
    exact ⟨Double.le_of_lt hone.1, hone.2, fun _ h => absurd h hbelow⟩

/-! ## Requests -/

/-- What a beeper can be asked for. -/
inductive Request where
  | setActive (active : Bool)
  | shutdown
deriving DecidableEq, Repr

/-- Whether the tone is to be on. -/
def Request.wanted : Request → Bool
  | setActive active => active
  | shutdown => false

/-- What a request makes of a beeper and of its host. -/
def respond (b : Beeper) (h : Host) : Request → Beeper × Host
  | .setActive active => b.setActive active h
  | .shutdown => b.shutdown h

/-- What one request after the other makes of them. -/
def serve (b : Beeper) (h : Host) : List Request → Beeper × Host
  | [] => (b, h)
  | r :: rest => (b.respond h r).1.serve (b.respond h r).2 rest

variable {b b' : Beeper} {h h' : Host} {active : Bool} {r : Request} {tone : List Call}

theorem serve_concat (b : Beeper) (h : Host) (requests : List Request) (r : Request) :
    b.serve h (requests ++ [r]) =
      (b.serve h requests).1.respond (b.serve h requests).2 r := by
  induction requests generalizing b h with
  | nil => rfl
  | cons first rest ih => exact ih _ _

/-- The channel on which the tone of a beeper is heard. -/
def sounding (b : Beeper) : Option Nat := if b.active then b.channel else none

theorem sounding_of_on (hon : b.active = true) : b.sounding = b.channel := if_pos hon

theorem sounding_of_off (hoff : b.active = false) : b.sounding = none := by
  rw [sounding, hoff]
  rfl

/-- What a request makes of a beeper, with the calls that it leads to. -/
structure Responded (b : Beeper) (h : Host) (r : Request) (b' : Beeper) (h' : Host)
    (tone : List Call) : Prop where
  log : h'.log = h.log ++ tone
  melody : ∀ {calls}, Melody b.volume b.sounding calls →
    Melody b.volume b'.sounding (calls ++ tone)
  /-- A channel is looked for to start the tone, if none is held. -/
  searches_iff : .findChannel ∈ tone ↔
    r = .setActive true ∧ b.active = false ∧ b.channel = none
  /-- It is held if it was found. -/
  found : .findChannel ∈ tone → b'.channel.isSome = h.freeChannels.next.1
  volume : b'.volume = b.volume
  active : b'.active = r.wanted
  released : r = .shutdown → b'.channel = none

/-- Switching is a request. -/
theorem SwitchSpec.exists_responded (hs : b.SwitchSpec h active b' h') :
    ∃ tone, Responded b h (.setActive active) b' h' tone := by
  have hvolume := hs.volume_eq
  have hactive := hs.active_eq
  cases hs with
  | stays =>
    have hsame : ¬ (Request.setActive b.active = .setActive true ∧ b.active = false ∧
        b.channel = none) := by
      rintro ⟨hon, hoff, -⟩
      rw [hoff] at hon
      cases hon
    exact ⟨[], ⟨by simp, by simp, iff_of_false nofun hsame, nofun, hvolume, hactive, nofun⟩⟩
  | resumes c hoff hheld told hq =>
    refine ⟨[.play c, .volume c b.volume],
      ⟨?_, fun hm => ?_, by simp [hheld], by simp, hvolume, hactive, nofun⟩⟩
    · simp [Host.log_call, hq.log]
    · rw [sounding_of_off hoff] at hm
      exact hm.started c
  | finds c hoff hheld told found hq hfound =>
    obtain ⟨-, -, hanswer⟩ := Host.of_findChannel hfound
    refine ⟨[.findChannel, .play c, .volume c b.volume],
      ⟨?_, fun hm => ?_, by simp [hoff, hheld], fun _ => ?_, hvolume, hactive, nofun⟩⟩
    · simp [Host.log_call, Host.log_of_findChannel hfound, hq.log]
    · rw [sounding_of_off hoff] at hm
      have hstarted := hm.searched.started c
      rwa [List.append_assoc] at hstarted
    · rw [← hq.freeChannels]
      exact hanswer
  | misses hoff hheld told found hq hfound =>
    obtain ⟨-, -, hanswer⟩ := Host.of_findChannel hfound
    refine ⟨[.findChannel],
      ⟨?_, fun hm => ?_, by simp [hoff, hheld], fun _ => ?_, hvolume, hactive, nofun⟩⟩
    · simp [Host.log_of_findChannel hfound, hq.log]
    · rw [sounding_of_off hoff] at hm
      rw [sounding_of_on rfl, hheld]
      exact hm.searched
    · rw [← hq.freeChannels, ← hanswer, hheld]
  | stops c hon hheld told hq =>
    refine ⟨[.stop c], ⟨?_, fun hm => ?_, by simp, by simp, hvolume, hactive, nofun⟩⟩
    · simp [Host.log_call, hq.log]
    · rw [sounding_of_on hon, hheld] at hm
      exact hm.stopped
  | ceases hon hheld told hq =>
    refine ⟨[], ⟨by simp [hq.log], fun hm => ?_, by simp, nofun, hvolume, hactive, nofun⟩⟩
    rw [sounding_of_on hon, hheld] at hm
    rw [sounding_of_off rfl, List.append_nil]
    exact hm

/-- **A request does nothing else.** -/
theorem exists_responded (b : Beeper) (h : Host) (r : Request) :
    ∃ tone, Responded b h r (b.respond h r).1 (b.respond h r).2 tone := by
  cases r with
  | setActive active => exact (b.switchSpec active h).exists_responded
  | shutdown =>
    obtain ⟨tone, ht⟩ := (b.switchSpec false h).exists_responded
    have hunasked : .findChannel ∉ tone := fun hasked => nomatch (ht.searches_iff.1 hasked).1
    refine ⟨tone, ⟨ht.log, fun hm => ?_, by simp [hunasked], fun hasked => absurd hasked hunasked,
      ht.volume, ht.active, fun _ => rfl⟩⟩
    · -- the tone is off, so that it does not matter which channel is given back
      have hoff : (b.setActive false h).1.active = false := ht.active
      have hreleased : (b.respond h .shutdown).1.active = false := ht.active
      have hsilent := ht.melody hm
      rw [sounding_of_off hoff] at hsilent
      rwa [sounding_of_off hreleased]

/-! ## Beepers at work -/

/-- The calls that a beeper of a volume has made are a melody. -/
structure Sings (volume : Float) (start : List Call) (b : Beeper) (h : Host) : Prop where
  volume_eq : b.volume = volume
  exists_calls : ∃ calls, h.log = start ++ calls ∧ Melody volume b.sounding calls

/-- A request keeps the calls in turn: `set_active` and `shutdown` each leave one balanced. -/
theorem Sings.respond {volume : Float} {start : List Call} (hb : b.Sings volume start h)
    (r : Request) : (b.respond h r).1.Sings volume start (b.respond h r).2 := by
  obtain ⟨rfl, calls, hlog, hm⟩ := hb
  obtain ⟨tone, ht⟩ := b.exists_responded h r
  refine ⟨ht.volume, calls ++ tone, ?_, ht.melody hm⟩
  rw [ht.log, hlog, List.append_assoc]

/-- So do all requests. -/
theorem Sings.serve {volume : Float} {start : List Call} (hb : b.Sings volume start h)
    (requests : List Request) :
    (b.serve h requests).1.Sings volume start (b.serve h requests).2 := by
  induction requests generalizing b h with
  | nil => exact hb
  | cons r rest ih => exact ih (hb.respond r)

/-- The last request decides about the tone and the channel. -/
theorem serve_last (hoff : b.active = false) (requests : List Request) :
    (b.serve h requests).1.active = (requests.getLast?.map Request.wanted).getD false ∧
      (requests.getLast? = some .shutdown → (b.serve h requests).1.channel = none) := by
  cases hlast : requests.getLast? with
  | none =>
    rw [List.getLast?_eq_none_iff.1 hlast]
    exact ⟨hoff, nofun⟩
  | some r =>
    obtain ⟨earlier, rfl⟩ := List.getLast?_eq_some_iff.1 hlast
    obtain ⟨tone, ht⟩ := (b.serve h earlier).1.exists_responded (b.serve h earlier).2 r
    rw [serve_concat]
    exact ⟨ht.active, fun hshut => ht.released (Option.some.inj hshut)⟩

/-- What is heard of calls of a volume, and which channel plays after them. -/
structure Balanced (volume : Float) (playing : Option Nat) (calls : List Call) : Prop where
  /-- Tones start and end in turn, from a start on, and each ends on the channel that it started
  on. -/
  inTurn : InTurn (calls.filter Call.isHeard) playing
  setsVolume : SetsVolume volume calls
  plays_iff : ∀ c, Host.playsAfter c calls.reverse = true ↔ playing = some c

/-- **A tone that starts is the one that ends**, whatever a beeper is asked for and whichever
channels it finds. A channel is looked for just when the tone is switched on and none is held, and
it is held if one was found. The tone is on just if it was asked to be, and nothing plays after a
shutdown. -/
theorem tone_is_balanced {setup : Setup} {made : Host} (hmade : create setup h = (.ok b, made))
    (requests : List Request) :
    let volume := clampVolume setup.volume
    let after := b.serve made requests
    (0.0 ≤ volume ∧ volume ≤ 1.0 ∧
      (0.0 < setup.volume → setup.volume < 1.0 → volume = setup.volume)) ∧
    (∃ calls, after.2.log = made.log ++ calls ∧ ∀ name : Nat → Nat,
      Balanced volume (after.1.sounding.map name) (calls.map (Call.renamed name)) ∧
      (requests.getLast? = some .shutdown → after.1.channel = none ∧
        ∀ c, Host.playsAfter c (calls.map (Call.renamed name)).reverse = false)) ∧
    after.1.active = (requests.getLast?.map Request.wanted).getD false ∧
    ∀ r, ∃ tone, (after.1.respond after.2 r).2.log = after.2.log ++ tone ∧
      (.findChannel ∈ tone ↔ r = .setActive true ∧ after.1.active = false ∧
        after.1.channel = none) ∧
      (.findChannel ∈ tone →
        (after.1.respond after.2 r).1.channel.isSome = after.2.freeChannels.next.1) := by
  intro volume after
  obtain ⟨samples, rfl⟩ : ∃ samples, b = ⟨samples, volume, none, false⟩ := by
    obtain ⟨samples, hb, -⟩ | ⟨e, he, -⟩ := of_create hmade
    · exact ⟨samples, Except.ok.inj hb⟩
    · cases he
  have hstart : Sings volume made.log ⟨samples, volume, none, false⟩ made :=
    ⟨rfl, [], by simp, .silence⟩
  obtain ⟨-, calls, hlog, hmelody⟩ := hstart.serve requests
  obtain ⟨hactive, hreleased⟩ := serve_last (b := ⟨samples, volume, none, false⟩) (h := made) rfl
    requests
  refine ⟨clampVolume_spec _, ⟨calls, hlog, fun name => ?_⟩, hactive, fun r => ?_⟩
  · have hnamed := hmelody.renamed name
    refine ⟨⟨hnamed.inTurn, hnamed.setsVolume, hnamed.plays_iff⟩, fun hshut =>
      ⟨hreleased hshut, fun c => Bool.eq_false_iff.2 fun hplays => ?_⟩⟩
    have hoff : after.1.active = false := by
      rw [hactive, hshut]
      rfl
    have hsounding := (hnamed.plays_iff c).1 hplays
    rw [sounding_of_off hoff] at hsounding
    cases hsounding
  · obtain ⟨tone, ht⟩ := after.1.exists_responded after.2 r
    exact ⟨tone, ht.log, ht.searches_iff, ht.found⟩

/-- A host that finds one channel and no other. -/
def sampleHost : Host where
  hasWindows := true
  sampleRates := ⟨some 44100, []⟩
  freeChannels := ⟨true, [false]⟩
  channelsFound := 0
  console := []
  files := .empty
  room := .all
  now := 0
  entropy := 0
  categories := []
  calls := []
  printed := []

/-- Shut down while its tone is on, a beeper ends the tone, and it starts none when it finds no
channel after that. -/
theorem tone_is_balanced_of_interrupted :
    let requests : List Request := [.setActive true, .setActive true, .shutdown, .setActive true,
      .shutdown]
    let calls : List Call := [.findChannel, .play 1, .volume 1 1.0, .stop 1, .findChannel]
    ∃ b made, create ⟨1.0, 4, 1.5⟩ sampleHost = (.ok b, made) ∧
      (b.serve made requests).2.log = made.log ++ calls ∧
      (b.serve made requests).1.channel = none ∧
      ∀ c, Host.playsAfter c (calls.map (Call.renamed fun _ => 7)).reverse = false := by
  intro requests calls
  obtain ⟨b, made, hmade, hlog⟩ : ∃ b made, create ⟨1.0, 4, 1.5⟩ sampleHost = (.ok b, made) ∧
      (b.serve made requests).2.log = made.log ++ calls := ⟨_, _, rfl, rfl⟩
  obtain ⟨-, ⟨calls', hlog', hcalls⟩, -, -⟩ := tone_is_balanced hmade requests
  obtain rfl : calls = calls' := List.append_cancel_left (hlog.symm.trans hlog')
  obtain ⟨-, hshut⟩ := hcalls fun _ => 7
  exact ⟨b, made, hmade, hlog, hshut rfl⟩

end Beeper

end SuperChip
