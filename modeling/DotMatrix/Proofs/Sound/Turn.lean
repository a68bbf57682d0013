import DotMatrix.Proofs.Sound.Voice
import DotMatrix.Sound.Output
import DotMatrix.Sound.Registers

/-!
# What happens to a voice

What happens to the sound unit is a write to a register, a step of the sequencer, or time. Each does
one of a few things to the voice of a channel (`Turn`), and only a write that triggers the channel
raises its status bit.

Results:
* `writeControl_turn`, `writeReg_turn`, `write_turn`: writes.
* `step_voice`: time.
* **`act_turn`**: whatever happens.
* `act_placed`, `play_placed`, `act_sequencer`: the places of the sequencer and of the wave
  channel.
-/

namespace DotMatrix

namespace Sound

/-! ## Registers and their channels -/

/-- The register that loads the length of a channel. -/
def lengthReg : Channel → Reg
  | .one => nr11
  | .two => nr21
  | .three => nr31
  | .four => nr41

/-- The registers of a channel. -/
def registers : Channel → List Reg
  | .one => [nr10, nr11, nr12, nr13, nr14]
  | .two => [nr21, nr22, nr23, nr24]
  | .three => [nr30, nr31, nr32, nr33, nr34]
  | .four => [nr41, nr42, nr43, nr44]

/-- The address of a register. -/
def Reg.address (r : Reg) : UInt16 :=
  0xFF10 + r.val.toUInt16

theorem regAt_address (r : Reg) : regAt r.address = r := by
  revert r
  decide

theorem address_power (r : Reg) : (r.address == 0xFF26) = decide (r = nr52) := by
  revert r
  decide

theorem address_wave (r : Reg) : 0xFF30 ≤ r.address ↔ 0x20 ≤ r.val := by
  revert r
  decide

theorem roleOf_length {r : Reg} {ch : Channel} (h : roleOf r = .length ch) : r = lengthReg ch := by
  revert r
  cases ch <;> decide

theorem roleOf_envelope {r : Reg} {ch : Channel} (h : roleOf r = .envelope ch) :
    r = converterReg ch := by
  revert r
  cases ch <;> decide

theorem roleOf_waveConverter {r : Reg} (h : roleOf r = .waveConverter) :
    r = converterReg .three := by
  revert r
  decide

theorem roleOf_control {r : Reg} {ch : Channel} (h : roleOf r = .control ch) :
    r = controlReg ch := by
  revert r
  cases ch <;> decide

theorem roleOf_plain {r : Reg} (h : roleOf r = .plain) (ch : Channel) :
    r ≠ controlReg ch ∧ r ≠ converterReg ch := by
  revert r
  cases ch <;> decide

variable (s : Sound) (ch ch' : Channel)

theorem beforeStore_places (r : Reg) (val : UInt8) : (s.beforeStore r val).places = s.places := by
  unfold beforeStore
  cases roleOf r <;> simp only [clockOnEnable, apply_ite places, setLength_places,
    setEnvelope_places, disable_places, ite_self]

/-! ## Writes -/

theorem clockOnEnable_other (val : UInt8) (other : ch' ≠ ch) :
    (s.clockOnEnable ch val).voice ch' = s.voice ch' := by
  have set (n : UInt16) : (s.setLength ch n).voice ch' = s.voice ch' := by
    rw [setLength_voice, if_neg other]
  simp only [clockOnEnable]
  split
  · split
    · rw [disable_voice, if_neg other, set]
    · exact set _
  · rfl

/-- The extra clock when the length begins to count. It stops no voice that a trigger is about
to start. -/
theorem clockOnEnable_voice (val : UInt8) :
    (s.clockOnEnable ch val).voice ch = s.voice ch ∨
      hasBit val 0x40 = true ∧ s.length ch ≠ 0 ∧
        (s.clockOnEnable ch val).voice ch = { s.voice ch with
          on := s.channelOn ch && (s.length ch - 1 != 0 || hasBit val 0x80)
          length := s.length ch - 1 } := by
  by_cases extra : (hasBit val 0x40 && !s.lengthEnabled ch && s.nextSkipsLength &&
      s.length ch != 0) = true
  · right
    simp only [clockOnEnable, if_pos extra]
    simp only [Bool.and_eq_true, bne_iff_ne] at extra
    obtain ⟨⟨⟨counts, -⟩, -⟩, some⟩ := extra
    refine ⟨counts, some, ?_⟩
    simp only [apply_ite (voice · ch), disable_voice, setLength_voice, if_true]
    by_cases out : s.length ch - 1 = 0
    · cases trigger : hasBit val 0x80 <;> simp [out, Voice.stopped, voice]
    · simp [out, voice]
  · left
    simp only [clockOnEnable, if_neg extra]

/-- A write to the register that loads a length. -/
theorem writeLength_voice (val : UInt8) :
    ((s.setLength ch (loadedLength ch val)).setReg (lengthReg ch) val).voice ch' =
      if ch' = ch then { s.voice ch' with length := loadedLength ch val } else s.voice ch' := by
  have mute : (lengthReg ch).Mute :=
    ⟨by cases ch <;> decide, fun ch' => by cases ch <;> cases ch' <;> decide⟩
  rw [setReg_voice _ _ mute, setLength_voice]

theorem loadedLength_ne (val : UInt8) : loadedLength ch val ≠ 0 := by
  have short := UInt8.lt_iff_toNat_lt.mp (and_lt (by decide : (0x3F : UInt8) < 0x40) val)
  have whole := val.toNat_lt
  cases ch <;> simp [loadedLength, ← UInt16.toNat_inj, UInt16.toNat_sub] at * <;> omega

/-- A write to the register that switches a converter. -/
theorem writeConverter_voice (val : UInt8) :
    ((s.setReg (converterReg ch) val).checkConverter ch).voice ch' = if ch' = ch then
      { s.voice ch' with
        on := s.channelOn ch' && hasBit val (converterMask ch)
        converter := hasBit val (converterMask ch) }
      else s.voice ch' := by
  have voice := converter_setReg_voice s ch ch val
  rw [if_pos rfl] at voice
  have on : (s.setReg (converterReg ch) val).channelOn ch = s.channelOn ch :=
    congrArg Voice.on voice
  have converter :
      (s.setReg (converterReg ch) val).converterOn ch = hasBit val (converterMask ch) :=
    congrArg Voice.converter voice
  rw [checkConverter_voice, on, converter]
  split
  next same => rw [converter_setReg_voice, if_pos same, same]
  next other => rw [converter_setReg_voice, if_neg other]

/-! ## Whatever happens -/

/-- What may happen to a sound unit: a write to a register, a step of the sequencer, or time. -/
inductive Event
  | write (r : Reg) (val : UInt8)
  | clock
  | time (cycles : Nat)
  deriving DecidableEq

namespace Event

/-- A write to a register of the channel. -/
def writesTo (ch : Channel) : Event → Bool
  | write r _ => r ∈ registers ch
  | _ => false

/-- A write to the register that loads the length of the channel. -/
def loads (ch : Channel) : Event → Bool
  | write r _ => r = lengthReg ch
  | _ => false

/-- A write that triggers the channel. -/
def triggers (ch : Channel) : Event → Bool
  | write r val => r = controlReg ch && hasBit val 0x80
  | _ => false

end Event

/-- The unit after an event. -/
def act (s : Sound) : Event → Sound
  | .write r val => s.write r.address val
  | .clock => s.stepSequencer
  | .time cycles => s.step cycles

/-- The unit after a list of events. -/
def play (s : Sound) (events : List Event) : Sound :=
  events.foldl act s

/-- What an event may do to the voice `v` of a channel. -/
inductive Turn (e : Event) (ch : Channel) (v : Voice) : Voice → Prop where
  | kept : Turn e ch v v
  | stepped {v' : Voice} (clock : e = .clock) (held : v.Held v' ∨ v.clocked.Held v') :
      Turn e ch v v'
  | loaded {n : UInt16} (load : e.loads ch = true) (some : n ≠ 0) :
      Turn e ch v { v with length := n }
  | switched (converter : Bool) (written : e.writesTo ch = true) :
      Turn e ch v { v with on := v.on && converter, converter := converter }
  | counted (counts : Bool) (written : e.writesTo ch = true) :
      Turn e ch v { v with counts := counts }
  /-- The extra clock when the length begins to count. -/
  | extra (written : e.writesTo ch = true) : Turn e ch v (Voice.clocked { v with counts := true })
  | triggered {on counts : Bool} {n : UInt16} (trigger : e.triggers ch = true)
      (power : v.power = true) (allowed : on = true → v.converter = true) (some : n ≠ 0) :
      Turn e ch v { v with on := on, counts := counts, length := n }
  | unpowered : Turn e ch v .silent
  | powered (power : v.power = false) : Turn e ch v { v with power := true }

theorem writesTo_control (val : UInt8) : (Event.write (controlReg ch) val).writesTo ch = true :=
  decide_eq_true (show controlReg ch ∈ registers ch by cases ch <;> decide)

theorem writesTo_converter (val : UInt8) :
    (Event.write (converterReg ch) val).writesTo ch = true :=
  decide_eq_true (show converterReg ch ∈ registers ch by cases ch <;> decide)

variable {s ch}

theorem writeControl_other (val : UInt8) (other : ch' ≠ ch) :
    ((s.clockOnEnable ch val).setReg (controlReg ch) val).voice ch' = s.voice ch' := by
  rw [control_setReg_voice, if_neg other, clockOnEnable_other s ch ch' val other]

/-- A write to the register that triggers a channel and lets its length count. -/
theorem writeControl_turn (power : s.enabled = true) {r : Reg} (role : roleOf r = .control ch)
    (val : UInt8) : Turn (.write r val) ch' (s.voice ch') ((s.writeReg r val).voice ch') := by
  simp only [writeReg, beforeStore, afterStore, role]
  obtain rfl := roleOf_control role
  by_cases other : ch' ≠ ch
  · rw [apply_ite (voice · ch'), trigger_other _ _ _ other, writeControl_other ch' val other,
      ite_self]
    exact .kept
  obtain rfl := not_not.mp other
  have stored := control_setReg_voice (s.clockOnEnable ch' val) ch' ch' val
  rw [if_pos rfl] at stored
  split
  next trigger =>
    obtain ⟨on, allowed, after⟩ :=
      trigger_voice ((s.clockOnEnable ch' val).setReg (controlReg ch') val) ch'
    have started : (Event.write (controlReg ch') val).triggers ch' = true := by
      simp only [Event.triggers, decide_true, trigger, Bool.and_self]
    have converter := congrArg Voice.converter stored
    rw [after, stored]
    rcases clockOnEnable_voice s ch' val with same | ⟨-, -, clocked⟩
    · rw [same] at converter ⊢
      exact .triggered started power (converter ▸ allowed) (reloadedLength_ne _ ch')
    · rw [clocked] at converter ⊢
      exact .triggered started power (converter ▸ allowed) (reloadedLength_ne _ ch')
  next quiet =>
    rw [stored]
    rcases clockOnEnable_voice s ch' val with same | ⟨counts, some, clocked⟩
    · rw [same]
      exact .counted _ (writesTo_control ch' val)
    · have extra : Voice.clocked { s.voice ch' with counts := true } = { s.voice ch' with
          on := s.channelOn ch' && s.length ch' - 1 != 0, counts := true
          length := s.length ch' - 1 } := by
        simp only [Voice.clocked, Bool.true_and]
        exact if_pos (bne_iff_ne.mpr some)
      rw [clocked, counts, Bool.eq_false_iff.mpr quiet, Bool.or_false, ← extra]
      exact .extra (writesTo_control ch' val)

/-- A write to the register that switches a converter, with what it does to the envelope. -/
theorem switched_turn {m : Sound} (same : ∀ ch, m.voice ch = s.voice ch) (val : UInt8) :
    Turn (.write (converterReg ch) val) ch' (s.voice ch')
      (((m.setReg (converterReg ch) val).checkConverter ch).voice ch') := by
  rw [writeConverter_voice]
  split
  next here =>
    subst here
    have on : m.channelOn ch' = s.channelOn ch' := congrArg Voice.on (same ch')
    rw [same, on]
    exact .switched _ (writesTo_converter ch' val)
  · rw [same]
    exact .kept

theorem writeReg_turn (power : s.enabled = true) {r : Reg} (status : r ≠ nr52) (val : UInt8) :
    Turn (.write r val) ch (s.voice ch) ((s.writeReg r val).voice ch) := by
  cases role : roleOf r with
  | length ch' =>
    simp only [writeReg, beforeStore, afterStore, role]
    obtain rfl := roleOf_length role
    rw [writeLength_voice]
    split
    next same =>
      subst same
      exact .loaded (decide_eq_true rfl) (loadedLength_ne ch val)
    · exact .kept
  | envelope ch' =>
    simp only [writeReg, beforeStore, afterStore, role]
    obtain rfl := roleOf_envelope role
    refine switched_turn ch (fun ch => ?_) val
    rw [apply_ite (voice · ch), setEnvelope_voice, ite_self]
  | waveConverter =>
    simp only [writeReg, beforeStore, afterStore, role]
    obtain rfl := roleOf_waveConverter role
    exact switched_turn ch (fun _ => rfl) val
  | control ch' => exact writeControl_turn ch power role val
  | plain =>
    simp only [writeReg, beforeStore, afterStore, role]
    rw [setReg_voice s ch ⟨status, roleOf_plain role⟩]
    exact .kept

/-! ### Wave memory and power -/

/-- The wave memory has no part in the voices. -/
theorem mute_of_wave {r : Reg} (wave : 0x20 ≤ r.val) : r.Mute := by
  refine ⟨?_, fun ch => ?_⟩
  · revert r
    decide
  · revert r
    cases ch <;> decide

/-- The wave byte that is played lies in the wave memory. -/
theorem playedReg_wave (place : s.ch3.position < 32) : 0x20 ≤ s.playedReg.val := by
  rw [playedReg, waveReg_val place]
  exact Nat.le_add_right _ _

theorem mute_playedReg (place : s.ch3.position < 32) : s.playedReg.Mute :=
  mute_of_wave (playedReg_wave place)

theorem writeWave_voice (place : s.ch3.position < 32) {r : Reg} (wave : 0x20 ≤ r.val)
    (val : UInt8) :
    (s.writeWave r val).voice ch = s.voice ch := by
  simp only [writeWave, apply_ite (voice · ch), setReg_voice s ch (mute_of_wave wave),
    setReg_voice s ch (mute_playedReg place), ite_self]

theorem powerOff_reg (s : Sound) (r : Reg) :
    s.powerOff.reg r = if r.val ≤ 0x16 then 0 else s.reg r := by
  simp [reg, powerOff]

theorem powerOff_voice : s.powerOff.voice ch = .silent := by
  have clear {r : Reg} (low : r.val ≤ 0x16) : s.powerOff.reg r = 0 := by
    rw [powerOff_reg, if_pos low]
  have length : s.powerOff.length ch = 0 := by
    cases ch <;> rfl
  have converter : s.powerOff.converterOn ch = false := by
    rw [converterOn, clear (by cases ch <;> decide)]
    cases ch <;> rfl
  have counts : s.powerOff.lengthEnabled ch = false := by
    rw [lengthEnabled, clear (by cases ch <;> decide)]
    rfl
  have on : s.powerOff.channelOn ch = false := by
    rw [channelOn, clear (by decide)]
    cases ch <;> rfl
  have power : s.powerOff.enabled = false := by
    rw [enabled, clear (by decide)]
    rfl
  simp only [voice, Voice.silent, power, on, converter, counts, length]

theorem powerOn_voice : s.powerOn.voice ch = { s.voice ch with power := true } := by
  have status : hasBit 0x80 ch.mask = false := by
    cases ch <;> decide
  refine (status_setReg_voice _ ch _).trans ?_
  rw [hasBit_or, hasBit_or, status, Bool.or_false, show hasBit 0x80 0x80 = true by decide,
    Bool.or_true]
  cases ch <;> rfl

theorem writePower_turn (e : Event) (val : UInt8) :
    Turn e ch (s.voice ch) ((s.writePower val).voice ch) := by
  unfold writePower
  split
  · split
    · exact .kept
    · rw [powerOff_voice]
      exact .unpowered
  next power =>
    split
    · rw [powerOn_voice]
      exact .powered (Bool.eq_false_iff.mpr power)
    · exact .kept

theorem write_turn (place : s.ch3.position < 32) (r : Reg) (val : UInt8) :
    Turn (.write r val) ch (s.voice ch) ((s.write r.address val).voice ch) := by
  simp only [write, address_power, address_wave, regAt_address, decide_eq_true_eq]
  split
  · exact writePower_turn _ val
  next other =>
    split
    next wave =>
      rw [writeWave_voice place wave]
      exact .kept
    · split
      next power => exact writeReg_turn power other val
      · exact .kept

/-! ### Time and the sequencer -/

theorem stepChannels_voice (cycles : Nat) : (s.stepChannels cycles).voice ch = s.voice ch := by
  have pulse (c : Pulse) (period : Int) : (c.step cycles period).length = c.length := by
    simp only [Pulse.step]
    split <;> rfl
  have wave (s : Sound) : (s.stepWave cycles).length = s.ch3.length := by
    simp only [stepWave]
    split <;> rfl
  have noise (s : Sound) : (s.stepNoise cycles).length = s.ch4.length := by
    unfold stepNoise
    split
    · simp only [Noise.step]
      split <;> rfl
    · rfl
  have length : (s.stepChannels cycles).length ch = s.length ch := by
    cases ch with
    | one | two => exact pulse _ _
    | three => exact wave _
    | four => exact noise _
  rw [voice, length]
  rfl

/-- The sampler counts and records: what does not look there does not change. -/
theorem stepSampler_blind {α : Type} (view : Sound → α)
    (blind : ∀ (m : Sound) n heard, view { m with sampleCycles := n, recorder := heard } = view m)
    (s : Sound) (cycles : Nat) : view (s.stepSampler cycles) = view s := by
  simp only [stepSampler, emit]
  split
  · rfl
  · split
    · exact blind s _ s.recorder
    · exact blind s _ _

theorem stepSampler_voice (cycles : Nat) : (s.stepSampler cycles).voice ch = s.voice ch :=
  stepSampler_blind (voice · ch) (fun _ _ _ => rfl) s cycles

/-- Time passes a voice by. -/
theorem step_voice (cycles : Nat) : (s.step cycles).voice ch = s.voice ch := by
  rw [step, stepSampler_voice, apply_ite (voice · ch), stepChannels_voice, ite_self]

theorem clock_turn (step : s.sequencer < 8) :
    Turn .clock ch (s.voice ch) (s.stepSequencer.voice ch) := by
  cases power : s.enabled with
  | false =>
    rw [stepSequencer, if_neg (Bool.eq_false_iff.mp power)]
    exact .kept
  | true =>
    have held := stepSequencer_voice s ch power step
    split at held
    · exact .stepped rfl (.inl held)
    · exact .stepped rfl (.inr held)

/-- The sequencer and the wave channel are at one of their places. -/
structure Placed (s : Sound) : Prop where
  step : s.sequencer < 8
  place : s.ch3.position < 32

/-- **Whatever happens**, each voice takes one of a few turns. -/
theorem act_turn (placed : s.Placed) (e : Event) : Turn e ch (s.voice ch) ((s.act e).voice ch) := by
  cases e with
  | write r val => exact write_turn placed.place r val
  | clock => exact clock_turn placed.step
  | time cycles =>
    rw [act, step_voice]
    exact .kept

/-! ## Places -/

theorem writeReg_places (r : Reg) (val : UInt8) :
    (s.writeReg r val).places = s.places ∨ (s.writeReg r val).places = (s.sequencer, 0) := by
  have stored : ((s.beforeStore r val).setReg r val).places = s.places := beforeStore_places s r val
  have step : ((s.beforeStore r val).setReg r val).sequencer = s.sequencer :=
    congrArg Prod.fst stored
  have place : ((s.beforeStore r val).setReg r val).ch3.position = s.ch3.position :=
    congrArg Prod.snd stored
  simp only [writeReg, afterStore]
  split
  · exact .inl ((checkConverter_places _ _).trans stored)
  · exact .inl ((checkConverter_places _ _).trans stored)
  · split
    · rw [trigger_places, step, place]
      split
      · exact .inr rfl
      · exact .inl rfl
    · exact .inl stored
  · exact .inl stored

/-- A write leaves the sequencer alone, or takes the power away. -/
theorem write_places (addr : UInt16) (val : UInt8) :
    (s.write addr val).places = s.places ∨ (s.write addr val).places = (s.sequencer, 0) ∨
      s.write addr val = s.powerOff := by
  unfold write
  split
  · unfold writePower
    split
    · split
      · exact .inl rfl
      · exact .inr (.inr rfl)
    · split <;> exact .inl rfl
  split
  · unfold writeWave
    split
    · exact .inl rfl
    · split <;> exact .inl rfl
  split
  · exact (writeReg_places _ val).elim .inl fun first => .inr (.inl first)
  · exact .inl rfl

/-- The sequencer counts the steps that it makes with power. -/
theorem stepSequencer_places : s.stepSequencer.places =
    (if s.enabled then (s.sequencer + 1) &&& 7 else s.sequencer, s.ch3.position) := by
  unfold stepSequencer
  split
  · have same := clockStep_places s
    simp only [places, Prod.mk.injEq] at same ⊢
    rw [same.1, same.2]
    exact ⟨rfl, rfl⟩
  · rfl

theorem stepSampler_places (cycles : Nat) : (s.stepSampler cycles).places = s.places :=
  stepSampler_blind places (fun _ _ _ => rfl) s cycles

/-- Time leaves the sequencer alone, and moves the wave channel to one of its places. -/
theorem step_places (cycles : Nat) : ∃ place, (s.step cycles).places = (s.sequencer, place) ∧
    (place = s.ch3.position ∨ place < 32) := by
  have wave (s : Sound) : (s.stepWave cycles).position = s.ch3.position ∨
      (s.stepWave cycles).position < 32 := by
    simp only [stepWave]
    split
    · exact .inl rfl
    · right
      simp [UInt8.lt_iff_toNat_lt]
      omega
  rw [step, stepSampler_places]
  split
  · exact ⟨(s.stepChannels cycles).ch3.position, rfl, wave _⟩
  · exact ⟨s.ch3.position, rfl, .inl rfl⟩

theorem Placed.of_places {m : Sound} (step : m.places.1 < 8) (place : m.places.2 < 32) : m.Placed :=
  ⟨step, place⟩

theorem act_placed (placed : s.Placed) (e : Event) : (s.act e).Placed := by
  cases e with
  | write r val =>
    rcases write_places (s := s) r.address val with same | first | off
    · exact Placed.of_places (same ▸ placed.step) (same ▸ placed.place)
    · exact Placed.of_places (first ▸ placed.step) (first ▸ (by decide : (0 : UInt8) < 32))
    · rw [act, off]
      exact ⟨(by decide : (0 : UInt8) < 8), (by decide : (0 : UInt8) < 32)⟩
  | clock =>
    have after := stepSequencer_places (s := s)
    refine Placed.of_places ?_ ?_
    · rw [act, after]
      split
      · exact and_lt (by decide) _
      · exact placed.step
    · rw [act, after]
      exact placed.place
  | time cycles =>
    obtain ⟨place, after, moved⟩ := step_places (s := s) cycles
    refine Placed.of_places (after ▸ placed.step) ?_
    rw [act, after]
    exact moved.elim (· ▸ placed.place) id

theorem play_placed (placed : s.Placed) (events : List Event) : (s.play events).Placed := by
  induction events generalizing s with
  | nil => exact placed
  | cons e rest ih => exact ih (act_placed placed e)

/-- Only the clock moves the sequencer while there is power. -/
theorem act_sequencer {e : Event} (other : e ≠ .clock) :
    (s.act e).sequencer = s.sequencer ∨ ∀ ch, (s.act e).voice ch = .silent := by
  cases e with
  | write r val =>
    rcases write_places (s := s) r.address val with same | first | off
    · exact .inl (congrArg Prod.fst same)
    · exact .inl (congrArg Prod.fst first)
    · right
      intro ch
      rw [act, off, powerOff_voice]
  | clock => exact absurd rfl other
  | time cycles =>
    obtain ⟨place, after, -⟩ := step_places (s := s) cycles
    exact .inl (congrArg Prod.fst after)

end Sound

end DotMatrix
