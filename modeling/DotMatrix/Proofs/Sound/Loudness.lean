import DotMatrix.Proofs.Sound.Length
import DotMatrix.Proofs.Sound.Steps

/-!
# Envelopes

An envelope moves the volume of a note from its start volume on, by one in every period, to the end
of its range, and rests there. A trigger just before the step that clocks the envelopes puts the
first move off by one clock.

Results:
* `Envelope.move_cases`, `Envelope.Swelling.clock`: a move, and a clock.
* **`Envelope.volume_run`**: the volume after some clocks.
* `clockEnvelopes_loudness`, `trigger_loudness`, `step_loudness`: the sequencer, triggers, time.
* **`act_swell`**: whatever happens to the envelope of a channel.
* `Reachable.volume_le`, `play_loudness`: the range of a volume, and undisturbed runs.
* **`envelope_run`**: an envelope from its trigger on.
-/

namespace DotMatrix

namespace Envelope

/-! ## Clocks -/

/-- The volume after `u` moves. -/
def level (nrx2 : UInt8) (u : Nat) : Nat :=
  if hasBit nrx2 0x08 then min 15 (nrx2.toNat / 16 + u) else nrx2.toNat / 16 - u

/-- The number of moves in `n` clocks after a trigger. -/
def moves (nrx2 : UInt8) (nextIsVolume : Bool) (n : Nat) : Nat :=
  if nrx2.toNat % 8 = 0 then 0 else (n - nextIsVolume.toNat) / (nrx2.toNat % 8)

variable {e : Envelope} {nrx2 : UInt8} {n u : Nat}

/-- No move is made before the first clock that counts. -/
theorem moves_eq (nrx2 : UInt8) (nextIsVolume : Bool) (n : Nat) : moves nrx2 nextIsVolume n =
    if nrx2.toNat % 8 = 0 ∨ n < nextIsVolume.toNat then 0
    else (n - nextIsVolume.toNat) / (nrx2.toNat % 8) := by
  unfold moves
  by_cases early : n < nextIsVolume.toNat
  · rw [Nat.sub_eq_zero_of_le early.le, Nat.zero_div, ite_self, ite_self]
  · simp only [early, or_false]

theorem level_le (nrx2 : UInt8) (u : Nat) : level nrx2 u ≤ 15 := by
  have byte := nrx2.toNat_lt
  unfold level
  split <;> omega

theorem trigger_volume (nrx2 : UInt8) (nextIsVolume : Bool) :
    (trigger nrx2 nextIsVolume).volume.toNat = level nrx2 0 := by
  have start : (nrx2 >>> 4).toNat = nrx2.toNat / 16 := by
    rw [UInt8.toNat_shiftRight]
    exact Nat.shiftRight_eq_div_pow _ 4
  have byte := nrx2.toNat_lt
  rw [trigger, start, level]
  split <;> omega

/-- A move takes the volume to the next level, or there is no other level to come. -/
theorem move_cases (now : e.volume.toNat = level nrx2 u) :
    (∃ v : UInt8, e.move nrx2 = { e with volume := v } ∧ v.toNat = level nrx2 (u + 1)) ∨
      e.move nrx2 = { e with disabled := true } ∧ ∀ k, u ≤ k → level nrx2 k = level nrx2 u := by
  have small := now ▸ level_le nrx2 u
  by_cases rising : hasBit nrx2 0x08 = true
  · have next : (e.volume + 1).toNat = e.volume.toNat + 1 := toNat_add_one (by omega)
    simp only [move, level, if_pos rising] at now ⊢
    by_cases room : e.volume + 1 ≤ 15
    · left
      rw [if_pos room]
      refine ⟨_, rfl, ?_⟩
      have room := UInt8.le_iff_toNat_le.mp room
      change _ ≤ 15 at room
      omega
    · right
      rw [if_neg room]
      refine ⟨rfl, fun k later => ?_⟩
      have room := mt UInt8.le_iff_toNat_le.mpr room
      change ¬ _ ≤ 15 at room
      omega
  · simp only [move, level, if_neg rising] at now ⊢
    by_cases zero : e.volume = 0
    · right
      rw [zero] at now ⊢
      change 0 = _ at now
      exact ⟨if_neg (by decide), fun k later => by omega⟩
    · left
      have some : e.volume.toNat ≠ 0 := fun none => zero (UInt8.toNat_inj.mp none)
      have next : (e.volume - 1).toNat = e.volume.toNat - 1 := toNat_sub_one some
      have room : e.volume - 1 ≤ 15 := by
        refine UInt8.le_iff_toNat_le.mpr ?_
        change _ ≤ 15
        omega
      rw [if_pos room]
      exact ⟨_, rfl, by omega⟩

theorem move_le (small : e.volume.toNat ≤ 15) : (e.move nrx2).volume.toNat ≤ 15 := by
  simp only [move]
  generalize (if hasBit nrx2 0x08 then e.volume + 1 else e.volume - 1) = next
  split
  next room => exact UInt8.le_iff_toNat_le.mp room
  next => exact small

theorem clock_le (small : e.volume.toNat ≤ 15) : (e.clock nrx2).volume.toNat ≤ 15 := by
  simp only [clock]
  split_ifs
  · exact small
  · exact small
  · exact small
  · exact move_le small

/-- An envelope with a period, `n` clocks after a trigger from which on all clocks count. -/
structure Swelling (nrx2 : UInt8) (n : Nat) (e : Envelope) : Prop where
  volume : e.volume.toNat = level nrx2 (n / (nrx2.toNat % 8))
  timer : e.disabled = false → e.timer.toNat + n % (nrx2.toNat % 8) = nrx2.toNat % 8
  rests : e.disabled = true → ∀ k, n / (nrx2.toNat % 8) ≤ k →
    level nrx2 k = level nrx2 (n / (nrx2.toNat % 8))

namespace Swelling

theorem start (some : nrx2.toNat % 8 ≠ 0) : Swelling nrx2 0 (trigger nrx2 false) := by
  refine ⟨?_, fun _ => ?_, fun off => absurd off Bool.false_ne_true⟩
  · rw [Nat.zero_div]
    exact trigger_volume nrx2 false
  · have period : (periodOf nrx2 + 0).toNat = nrx2.toNat % 8 := by
      rw [UInt8.add_zero, periodOf_toNat, if_neg some]
    rw [Nat.zero_mod]
    exact period

/-- At the end of its range the envelope rests. -/
theorem clock_rests (h : Swelling nrx2 n e) (off : e.disabled = true) :
    Swelling nrx2 (n + 1) (e.clock nrx2) := by
  have later : n / (nrx2.toNat % 8) ≤ (n + 1) / (nrx2.toNat % 8) :=
    Nat.div_le_div_right (Nat.le_succ n)
  have rests := h.rests off
  rw [Envelope.clock, if_pos off]
  refine ⟨h.volume.trans (rests _ later).symm, fun on => ?_, fun _ k after => ?_⟩
  · exact absurd off (Bool.eq_false_iff.mp on)
  · rw [rests k (later.trans after), rests _ later]

/-- Within a period the timer counts down. -/
theorem clock_waits (h : Swelling nrx2 n e) (on : e.disabled = false) (later : 1 < e.timer.toNat) :
    Swelling nrx2 (n + 1) (e.clock nrx2) := by
  have counted := h.timer on
  obtain ⟨quotient, remainder⟩ :=
    countdown_waits (by omega : n % (nrx2.toNat % 8) + 1 < nrx2.toNat % 8)
  have one : (e.timer - 1).toNat = e.timer.toNat - 1 := toNat_sub_one (by omega)
  have waits : e.clock nrx2 = { e with timer := e.timer - 1 } := by
    rw [Envelope.clock, if_neg (Bool.eq_false_iff.mp on), if_pos (one_lt_iff.mpr later)]
  rw [waits]
  refine ⟨quotient ▸ h.volume, fun _ => ?_, fun off => absurd off (Bool.eq_false_iff.mp on)⟩
  rw [remainder]
  change (e.timer - 1).toNat + _ = _
  omega

/-- At the end of a period the volume moves, or comes to rest. -/
theorem clock_moves (some : nrx2.toNat % 8 ≠ 0) (h : Swelling nrx2 n e) (on : e.disabled = false)
    (due : ¬ 1 < e.timer.toNat) : Swelling nrx2 (n + 1) (e.clock nrx2) := by
  have counted := h.timer on
  have left := Nat.mod_lt n (Nat.pos_of_ne_zero some)
  obtain ⟨quotient, remainder⟩ :=
    countdown_ends (by omega : n % (nrx2.toNat % 8) + 1 = nrx2.toNat % 8)
  let r : Envelope := { e with timer := periodOf nrx2 }
  have moves : e.clock nrx2 = r.move nrx2 := by
    rw [Envelope.clock, if_neg (Bool.eq_false_iff.mp on), if_neg (mt one_lt_iff.mp due)]
    exact if_neg (mt (period_zero_iff nrx2).mp some)
  have reloaded : r.timer.toNat + 0 = nrx2.toNat % 8 :=
    (periodOf_toNat nrx2).trans (if_neg some)
  rw [moves]
  rcases move_cases (e := r) h.volume with ⟨v, moved, next⟩ | ⟨stopped, rests⟩
  · rw [moved]
    refine ⟨quotient ▸ next, fun _ => remainder ▸ reloaded, fun off => ?_⟩
    exact absurd off (Bool.eq_false_iff.mp on)
  · rw [stopped]
    refine ⟨?_, fun off => absurd off.symm Bool.false_ne_true, fun _ k after => ?_⟩
    · rw [quotient, rests _ (Nat.le_succ _)]
      exact h.volume
    · rw [quotient] at after ⊢
      rw [rests k ((Nat.le_succ _).trans after), rests _ (Nat.le_succ _)]

theorem clock (some : nrx2.toNat % 8 ≠ 0) (h : Swelling nrx2 n e) :
    Swelling nrx2 (n + 1) (e.clock nrx2) := by
  cases off : e.disabled with
  | true => exact h.clock_rests off
  | false =>
    by_cases later : 1 < e.timer.toNat
    · exact h.clock_waits off later
    · exact h.clock_moves some off later

theorem run (some : nrx2.toNat % 8 ≠ 0) (n : Nat) :
    Swelling nrx2 n ((Envelope.clock · nrx2)^[n] (trigger nrx2 false)) := by
  induction n with
  | zero => exact start some
  | succ n ih =>
    rw [Function.iterate_succ_apply']
    exact ih.clock some

end Swelling

/-- With a period of 0 the volume stays. -/
theorem clock_volume (none : nrx2.toNat % 8 = 0) (e : Envelope) :
    (e.clock nrx2).volume = e.volume := by
  simp only [clock, if_pos ((period_zero_iff nrx2).mpr none)]
  split_ifs <;> rfl

/-- The clock that follows a trigger at once does not count. -/
theorem clock_trigger (nrx2 : UInt8) : (trigger nrx2 true).clock nrx2 = trigger nrx2 false := by
  have period : 0 < (periodOf nrx2).toNat ∧ (periodOf nrx2).toNat ≤ 8 := by
    rw [periodOf_toNat]
    split <;> omega
  have more : (periodOf nrx2 + 1).toNat = (periodOf nrx2).toNat + 1 := toNat_add_one (by omega)
  have later : 1 < periodOf nrx2 + 1 := one_lt_iff.mpr (by omega)
  have back : periodOf nrx2 + 1 - 1 = periodOf nrx2 + 0 := by
    rw [UInt8.add_sub_cancel, UInt8.add_zero]
  unfold clock trigger
  rw [if_neg Bool.false_ne_true, if_pos rfl, if_pos later, back]
  rfl

/-- **The volume** after `n` clocks: as many moves as there are whole periods, and no further than
the end of the range. -/
theorem volume_run (nrx2 : UInt8) (nextIsVolume : Bool) (n : Nat) :
    ((clock · nrx2)^[n] (trigger nrx2 nextIsVolume)).volume.toNat =
      level nrx2 (moves nrx2 nextIsVolume n) := by
  unfold moves
  split
  next none =>
    induction n with
    | zero => exact trigger_volume nrx2 nextIsVolume
    | succ n ih => rw [Function.iterate_succ_apply', clock_volume none, ih]
  next some =>
    cases nextIsVolume with
    | false => exact (Swelling.run some n).volume
    | true =>
      cases n with
      | zero =>
        rw [Nat.zero_sub, Nat.zero_div]
        exact trigger_volume nrx2 true
      | succ n =>
        rw [Function.iterate_succ_apply, clock_trigger]
        exact (Swelling.run some n).volume

end Envelope

namespace Sound

variable {s : Sound} {ch : Channel}

/-! ## Parts of operations -/

/-- What decides how loud a channel is: its register NRx2, and its envelope. -/
def loudness (s : Sound) (ch : Channel) : UInt8 × Envelope :=
  (s.reg (converterReg ch), s.envelope ch)

/-- The envelope is clocked. -/
def swell (loud : UInt8 × Envelope) : UInt8 × Envelope :=
  (loud.1, loud.2.clock loud.1)

/-- A trigger starts the envelope afresh. -/
def struck (s : Sound) (ch : Channel) : UInt8 × Envelope :=
  (s.reg (converterReg ch), Envelope.trigger (s.reg (converterReg ch)) s.nextClocksVolume)

section Parts

variable (s : Sound) (ch ch' : Channel)

theorem setReg_loudness {r : Reg} (other : converterReg ch ≠ r) (val : UInt8) :
    (s.setReg r val).loudness ch = s.loudness ch := by
  unfold loudness
  rw [reg_setReg, if_neg other]
  cases ch <;> rfl

theorem converter_setReg_loudness (val : UInt8) :
    (s.setReg (converterReg ch) val).loudness ch = (val, s.envelope ch) := by
  unfold loudness
  rw [reg_setReg, if_pos rfl]
  cases ch <;> rfl

theorem struck_congr {s m : Sound} {ch : Channel} (same : m.loudness ch = s.loudness ch)
    (place : m.sequencer = s.sequencer) : m.struck ch = s.struck ch := by
  have register : m.reg (converterReg ch) = s.reg (converterReg ch) := congrArg Prod.fst same
  rw [struck, struck, nextClocksVolume, nextClocksVolume, register, place]

theorem status_loudness (status : UInt8) : (s.setReg nr52 status).loudness ch = s.loudness ch :=
  setReg_loudness s ch (by cases ch <;> decide) status

theorem disable_loudness : (s.disable ch').loudness ch = s.loudness ch :=
  status_loudness s ch _

theorem setLength_loudness (n : UInt16) : (s.setLength ch' n).loudness ch = s.loudness ch := by
  cases ch <;> cases ch' <;> rfl

variable {ch} in
theorem setEnvelope_loudness (has : ch ≠ .three) (e : Envelope) :
    (s.setEnvelope ch' e).loudness ch =
      if ch' = ch then (s.reg (converterReg ch), e) else s.loudness ch := by
  cases ch with
  | three => exact absurd rfl has
  | one | two | four => cases ch' <;> rfl

theorem checkConverter_loudness : (s.checkConverter ch').loudness ch = s.loudness ch := by
  simp only [checkConverter, apply_ite (loudness · ch), disable_loudness, ite_self]

theorem clockOnEnable_loudness (val : UInt8) :
    (s.clockOnEnable ch' val).loudness ch = s.loudness ch := by
  simp only [clockOnEnable, apply_ite (loudness · ch), disable_loudness, setLength_loudness,
    ite_self]

/-! ### The sequencer -/

theorem clockLengths_loudness : s.clockLengths.loudness ch = s.loudness ch := by
  have one (ch' : Channel) (s : Sound) : (s.clockLength ch').loudness ch = s.loudness ch := by
    simp only [clockLength, shorten, apply_ite (loudness · ch), disable_loudness,
      setLength_loudness, ite_self]
  rw [clockLengths, one, one, one, one]

theorem setFrequency1_loudness (f : UInt16) : (s.setFrequency1 f).loudness ch = s.loudness ch := by
  unfold setFrequency1
  rw [setReg_loudness _ _ (by cases ch <;> decide), setReg_loudness _ _ (by cases ch <;> decide)]

theorem clockSweep_loudness : s.clockSweep.loudness ch = s.loudness ch := by
  have still (w : Sweep) : loudness { s with sweep := w } ch = s.loudness ch := by
    cases ch <;> rfl
  simp only [clockSweep, runSweep, commitSweep, apply_ite (loudness · ch), disable_loudness,
    setFrequency1_loudness, still, ite_self]

variable {ch} in
theorem clockEnvelope_loudness (has : ch ≠ .three) : (s.clockEnvelope ch').loudness ch =
    if ch' = ch ∧ s.channelOn ch = true then swell (s.loudness ch) else s.loudness ch := by
  unfold clockEnvelope
  by_cases same : ch' = ch
  · subst same
    by_cases on : s.channelOn ch' = true
    · rw [if_pos on, if_pos ⟨rfl, on⟩, setEnvelope_loudness s ch' has, if_pos rfl]
      rfl
    · rw [if_neg on, if_neg fun h => on h.2]
  · simp only [apply_ite (loudness · ch), setEnvelope_loudness s ch' has, ite_self, same,
      false_and, if_false]

variable {ch} in
theorem clockEnvelopes_loudness (has : ch ≠ .three) : s.clockEnvelopes.loudness ch =
    if s.channelOn ch then swell (s.loudness ch) else s.loudness ch := by
  have kept (s : Sound) (ch' : Channel) : (s.clockEnvelope ch').channelOn ch = s.channelOn ch :=
    congrArg Voice.on (clockEnvelope_voice s ch' ch)
  simp only [clockEnvelopes, clockEnvelope_loudness _ _ has, kept]
  cases ch with
  | three => exact absurd rfl has
  | one | two | four => simp

/-! ### Triggers -/

variable {ch} in
theorem startNote_loudness (has : ch ≠ .three) :
    (s.startNote ch').loudness ch = if ch' = ch then s.struck ch else s.loudness ch := by
  let m := (s.enable ch').setLength ch' ((s.enable ch').reloadedLength ch')
  have same : m.loudness ch = s.loudness ch :=
    (setLength_loudness _ ch ch' _).trans (status_loudness s ch _)
  have place : m.sequencer = s.sequencer := congrArg Prod.fst (setLength_places _ ch' _)
  refine (setEnvelope_loudness m ch' has _).trans ?_
  split
  next here =>
    subst here
    exact struck_congr same place
  · exact same

theorem startSweep_loudness : s.startSweep.loudness ch = s.loudness ch := by
  simp only [startSweep, apply_ite (loudness · ch), disable_loudness, ite_self]
  cases ch <;> rfl

variable {ch} in
/-- A trigger starts the envelope of its channel. -/
theorem trigger_loudness (has : ch ≠ .three) :
    (s.trigger ch').loudness ch = if ch' = ch then s.struck ch else s.loudness ch := by
  refine Eq.trans ?_ (startNote_loudness s ch' has)
  unfold trigger
  cases ch' with
  | one =>
    rw [checkConverter_loudness, startSweep_loudness]
    cases ch <;> rfl
  | two | three | four =>
    rw [checkConverter_loudness]
    cases ch <;> rfl

theorem storeControl_loudness (val : UInt8) :
    ((s.clockOnEnable ch' val).setReg (controlReg ch') val).loudness ch = s.loudness ch := by
  rw [setReg_loudness _ _ (by cases ch <;> cases ch' <;> decide), clockOnEnable_loudness]

variable {ch} in
theorem writeTrigger_loudness (has : ch ≠ .three) (val : UInt8) :
    (((s.clockOnEnable ch' val).setReg (controlReg ch') val).trigger ch').loudness ch =
      if ch' = ch then s.struck ch else s.loudness ch := by
  have same := storeControl_loudness s ch ch' val
  have place : (s.clockOnEnable ch' val).places = s.places := by
    simp only [clockOnEnable, apply_ite places, setLength_places, disable_places, ite_self]
  rw [trigger_loudness _ _ has, same, struck_congr same (congrArg Prod.fst place)]

/-! ### Time -/

theorem step_loudness (cycles : Nat) : (s.step cycles).loudness ch = s.loudness ch := by
  have pulse (c : Pulse) (period : Int) : (c.step cycles period).envelope = c.envelope := by
    simp only [Pulse.step]
    split <;> rfl
  have noise (s : Sound) : (s.stepNoise cycles).envelope = s.ch4.envelope := by
    simp only [stepNoise, Noise.step]
    split_ifs <;> rfl
  have channels : (s.stepChannels cycles).loudness ch = s.loudness ch := by
    unfold loudness
    congr 1
    cases ch with
    | one | two => exact pulse _ _
    | three => rfl
    | four => exact noise _
  have sampler (s : Sound) : (s.stepSampler cycles).loudness ch = s.loudness ch :=
    stepSampler_blind (loudness · ch) (fun _ _ _ => by cases ch <;> rfl) s cycles
  rw [step, sampler, apply_ite (loudness · ch), channels, ite_self]

end Parts

/-! ## Whatever happens -/

/-- Whether the event clocks the envelope of the channel. -/
def swells (s : Sound) (ch : Channel) : Event → Bool
  | .clock => s.enabled && s.sequencer == 7 && s.channelOn ch
  | _ => false

/-- What an event may do to an envelope and its register. -/
inductive Swell (s : Sound) (e : Event) (ch : Channel) : UInt8 × Envelope → Prop where
  | kept (rest : s.swells ch e = false) : Swell s e ch (s.loudness ch)
  | clocked (due : s.swells ch e = true) : Swell s e ch (swell (s.loudness ch))
  /-- A write to the register, which moves the volume of a note that sounds. -/
  | stored (val : UInt8) (v : Envelope) (write : e = .write (converterReg ch) val)
      (new : v = s.envelope ch ∨ v = (s.envelope ch).rewritten (s.reg (converterReg ch)) val) :
      Swell s e ch (val, v)
  | triggered (trigger : e.triggers ch = true) : Swell s e ch (s.struck ch)
  /-- Without power there is neither. -/
  | silenced (val : UInt8) (write : e = .write nr52 val) (off : hasBit val 0x80 = false) :
      Swell s e ch (0, {})

theorem clock_swell (has : ch ≠ .three) : Swell s .clock ch (s.stepSequencer.loudness ch) := by
  have after : s.stepSequencer.loudness ch =
      if s.swells ch .clock then swell (s.loudness ch) else s.loudness ch := by
    unfold stepSequencer swells
    by_cases power : s.enabled = true
    · rw [if_pos power, power, Bool.true_and]
      have step : loudness { s.clockStep with sequencer := (s.clockStep.sequencer + 1) &&& 7 } ch =
          s.clockStep.loudness ch := by
        cases ch <;> rfl
      refine step.trans ?_
      by_cases seven : s.sequencer = 7
      · rw [clockStep, seven]
        exact clockEnvelopes_loudness s has
      · have other : (s.sequencer == 7) = false := beq_eq_false_iff_ne.mpr seven
        rw [other, Bool.false_and, clockStep, other]
        simp only [apply_ite (loudness · ch), clockSweep_loudness, clockLengths_loudness,
          Bool.false_eq_true, if_false, ite_self]
    · rw [if_neg power, Bool.eq_false_iff.mpr power]
      rfl
  rw [after]
  cases due : s.swells ch .clock with
  | true => exact .clocked due
  | false => exact .kept due

theorem powerOff_loudness (s : Sound) (ch : Channel) : s.powerOff.loudness ch = (0, {}) := by
  have clear : s.powerOff.reg (converterReg ch) = 0 := by
    have low : (converterReg ch).val ≤ 0x16 := by
      cases ch <;> decide
    simp [reg, powerOff, low]
  unfold loudness
  rw [clear]
  cases ch <;> rfl

theorem writePower_swell (val : UInt8) :
    Swell s (.write nr52 val) ch ((s.writePower val).loudness ch) := by
  unfold writePower
  split_ifs with power bit bit
  · exact .kept rfl
  · rw [powerOff_loudness]
    exact .silenced val rfl (Bool.eq_false_iff.mpr bit)
  · have same : s.powerOn.loudness ch = s.loudness ch := by
      refine (status_loudness _ ch _).trans ?_
      cases ch <;> rfl
    rw [same]
    exact .kept rfl
  · exact .kept rfl

theorem writeReg_swell (has : ch ≠ .three) (r : Reg) (val : UInt8) :
    Swell s (.write r val) ch ((s.writeReg r val).loudness ch) := by
  cases role : roleOf r with
  | length ch' =>
    simp only [writeReg, beforeStore, afterStore, role]
    obtain rfl := roleOf_length role
    rw [setReg_loudness _ _ (by cases ch <;> cases ch' <;> decide), setLength_loudness]
    exact .kept rfl
  | envelope ch' =>
    simp only [writeReg, beforeStore, afterStore, role, checkConverter_loudness]
    obtain rfl := roleOf_envelope role
    by_cases same : ch' = ch
    · subst same
      rw [converter_setReg_loudness]
      refine .stored val _ rfl ?_
      split
      · exact .inr (congrArg Prod.snd ((setEnvelope_loudness s ch' has _).trans (if_pos rfl)))
      · exact .inl rfl
    · have apart : converterReg ch ≠ converterReg ch' := by
        cases ch <;> cases ch' <;> first | exact absurd rfl same | decide
      rw [setReg_loudness _ _ apart, apply_ite (loudness · ch), setEnvelope_loudness s ch' has,
        if_neg same, ite_self]
      exact .kept rfl
  | waveConverter =>
    simp only [writeReg, beforeStore, afterStore, role, checkConverter_loudness]
    obtain rfl := roleOf_waveConverter role
    rw [setReg_loudness _ _ (by cases ch <;> first | exact absurd rfl has | decide)]
    exact .kept rfl
  | control ch' =>
    simp only [writeReg, beforeStore, afterStore, role]
    obtain rfl := roleOf_control role
    rw [apply_ite (loudness · ch), writeTrigger_loudness s ch' has, storeControl_loudness]
    split_ifs with trigger same
    · subst same
      exact .triggered (by simp only [Event.triggers, decide_true, trigger, Bool.and_self])
    · exact .kept rfl
    · exact .kept rfl
  | plain =>
    simp only [writeReg, beforeStore, afterStore, role]
    rw [setReg_loudness _ _ (roleOf_plain role ch).2.symm]
    exact .kept rfl

/-- **Whatever happens**, an envelope takes one of a few turns. -/
theorem act_swell (placed : s.Placed) (has : ch ≠ .three) (e : Event) :
    Swell s e ch ((s.act e).loudness ch) := by
  cases e with
  | write r val =>
    simp only [act, write, address_power, address_wave, regAt_address, decide_eq_true_eq]
    split_ifs with status wave power
    · exact status ▸ writePower_swell val
    · have kept {r : Reg} (mute : r.Mute) : (s.setReg r val).loudness ch = s.loudness ch :=
        setReg_loudness s ch (mute.2 ch).2.symm val
      simp only [writeWave, apply_ite (loudness · ch), kept (mute_of_wave wave),
        kept (mute_playedReg placed.place), ite_self]
      exact .kept rfl
    · exact writeReg_swell has r val
    · exact .kept rfl
  | clock => exact clock_swell has
  | time cycles =>
    rw [act, step_loudness]
    exact .kept rfl

/-! ## Volumes -/

theorem Swell.volume_le {e : Event} {loud : UInt8 × Envelope} (h : Swell s e ch loud)
    (small : (s.envelope ch).volume.toNat ≤ 15) : loud.2.volume.toNat ≤ 15 := by
  cases h with
  | kept => exact small
  | clocked => exact Envelope.clock_le small
  | stored val v write new =>
    rcases new with rfl | rfl
    · exact small
    · exact Nat.le_of_lt_succ
        (UInt8.lt_iff_toNat_lt.mp (and_lt (by decide : (0x0F : UInt8) < 0x10) _))
  | triggered =>
    rw [struck, Envelope.trigger_volume]
    exact Envelope.level_le _ 0
  | silenced => exact Nat.zero_le 15

/-- The volume of a channel has four bits. -/
theorem Reachable.volume_le (h : s.Reachable) (ch : Channel) :
    (s.envelope ch).volume.toNat ≤ 15 := by
  by_cases has : ch = .three
  · subst has
    exact Nat.zero_le 15
  induction h with
  | unpowered | boot =>
    cases ch <;> exact Nat.zero_le 15
  | act h e ih => exact (act_swell h.placed has e).volume_le ih

/-! ## Runs -/

/-- Something else than the clock may change the envelope of the channel: a write to its register
NRx2, a trigger, or the power going off. -/
def Event.disturbs (ch : Channel) : Event → Bool
  | write r val => r = converterReg ch || r = controlReg ch && hasBit val 0x80 ||
      r = nr52 && !hasBit val 0x80
  | _ => false

/-- How many of the events clock the envelope of the channel. -/
def volumeClocks (ch : Channel) : Sound → List Event → Nat
  | _, [] => 0
  | s, e :: rest => (s.swells ch e).toNat + volumeClocks ch (s.act e) rest

theorem Swell.undisturbed {e : Event} {loud : UInt8 × Envelope} (h : Swell s e ch loud)
    (quiet : e.disturbs ch = false) : loud = swell^[(s.swells ch e).toNat] (s.loudness ch) := by
  cases h with
  | kept rest =>
    rw [rest]
    rfl
  | clocked due =>
    rw [due]
    rfl
  | stored val v write =>
    subst write
    simp [Event.disturbs] at quiet
  | triggered trigger =>
    cases e with
    | write r val =>
      unfold Event.triggers at trigger
      simp [Event.disturbs, trigger] at quiet
    | clock | time => exact absurd trigger Bool.false_ne_true
  | silenced val write off =>
    subst write
    simp [Event.disturbs, off] at quiet

theorem play_loudness (placed : s.Placed) (has : ch ≠ .three) {events : List Event}
    (quiet : ∀ e ∈ events, e.disturbs ch = false) :
    (s.play events).loudness ch = swell^[volumeClocks ch s events] (s.loudness ch) := by
  induction events generalizing s with
  | nil => rfl
  | cons e rest ih =>
    obtain ⟨first, others⟩ := List.forall_mem_cons.mp quiet
    rw [volumeClocks, Nat.add_comm, Function.iterate_add_apply,
      ← (act_swell placed has e).undisturbed first]
    exact ih (act_placed placed e) others

theorem iterate_swell (nrx2 : UInt8) (e : Envelope) (n : Nat) :
    swell^[n] (nrx2, e) = (nrx2, (Envelope.clock · nrx2)^[n] e) := by
  induction n with
  | zero => rfl
  | succ n ih => rw [Function.iterate_succ_apply', ih, Function.iterate_succ_apply', swell]

theorem nextClocksVolume_toNat (s : Sound) :
    s.nextClocksVolume.toNat = if s.sequencer = 7 then 1 else 0 := by
  by_cases seven : s.sequencer = 7
  · rw [if_pos seven, nextClocksVolume, seven]
    rfl
  · rw [if_neg seven, nextClocksVolume, beq_eq_false_iff_ne.mpr seven]
    rfl

/-- **Envelopes.** A channel with an envelope, from a trigger on, with its register NRx2 left alone:
the start volume `V`, the period `P`, the direction, and the place of the sequencer decide the
volume after `n` clocks of the envelope. No volume leaves its range. An envelope that rests does so
until it is disturbed. -/
theorem envelope_run (h : s.Reachable) (has : ch ≠ .three) :
    (s.enabled = true → ∀ val events, hasBit val 0x80 = true →
      (∀ e ∈ events, e.disturbs ch = false) →
      let start := s.act (.write (controlReg ch) val)
      let nrx2 := s.reg (converterReg ch)
      let V := nrx2.toNat / 16
      let P := nrx2.toNat % 8
      let b := if s.sequencer = 7 then 1 else 0
      let n := volumeClocks ch start events
      let u := if P = 0 ∨ n < b then 0 else (n - b) / P
      ((start.play events).envelope ch).volume.toNat =
        if hasBit nrx2 0x08 then min 15 (V + u) else V - u) ∧
    (s.envelope ch).volume.toNat ≤ 15 ∧
    ((s.envelope ch).disabled = true → ∀ events, (∀ e ∈ events, e.disturbs ch = false) →
      (s.play events).envelope ch = s.envelope ch) := by
  refine ⟨fun power val events trigger quiet => ?_, h.volume_le ch, fun off events quiet => ?_⟩
  · intro start nrx2 V P b n u
    have begun : start.loudness ch = (nrx2, Envelope.trigger nrx2 s.nextClocksVolume) := by
      rw [show start = _ from act_trigger power ch trigger, writeTrigger_loudness s ch has,
        if_pos rfl, struck]
    have run : (start.play events).loudness ch = swell^[n] (start.loudness ch) :=
      play_loudness (act_placed h.placed _) has quiet
    rw [begun, iterate_swell] at run
    have moved : Envelope.moves nrx2 s.nextClocksVolume n = u := by
      rw [Envelope.moves_eq, nextClocksVolume_toNat]
    have volume := congrArg (fun loud => loud.2.volume.toNat) run
    refine (volume.trans (Envelope.volume_run _ _ _)).trans ?_
    rw [moved]
    rfl
  · have run := play_loudness h.placed has quiet
    rw [loudness, loudness, iterate_swell] at run
    have rests : (s.envelope ch).clock (s.reg (converterReg ch)) = s.envelope ch := if_pos off
    refine (congrArg Prod.snd run).trans ?_
    exact Function.iterate_fixed rests _

/-- A note of channel 2 that starts at volume 14 before the step that clocks the envelopes, and
rises with every clock: the first clock does not count, the second takes it to 15, and there it
stays. -/
theorem envelope_run_delayed :
    let start := (unpowered false).boot
    let s := start.play (.write nr22 0xE9 :: List.replicate 7 .clock)
    let note := s.act (.write nr24 0x80)
    let high := note.play (List.replicate 17 .clock)
    s.enabled = true ∧ s.sequencer = 7 ∧ high.channelOn .two = true ∧
      ((note.play [.clock]).envelope .two).volume.toNat = 14 ∧
      ((note.play (List.replicate 9 .clock)).envelope .two).volume.toNat = 15 ∧
      (high.envelope .two).disabled = true ∧
      ∀ k, ((high.play (List.replicate k .clock)).envelope .two).volume.toNat = 15 := by
  intro start s note high
  have reachable : s.Reachable := (Reachable.boot _).play _
  have last : high.Reachable := (reachable.act _).play _
  have quiet (k : Nat) : ∀ e ∈ List.replicate k Event.clock, e.disturbs .two = false := by
    intro e member
    rw [List.eq_of_mem_replicate member]
    rfl
  have power : s.enabled = true := by decide +kernel
  have register : s.reg (converterReg .two) = 0xE9 := by decide +kernel
  have seven : s.sequencer = 7 := by decide +kernel
  have on : high.channelOn .two = true := by decide +kernel
  have off : (high.envelope .two).disabled = true := by decide +kernel
  have count : volumeClocks .two note [.clock] = 1 ∧
      volumeClocks .two note (List.replicate 9 .clock) = 2 ∧
      volumeClocks .two note (List.replicate 17 .clock) = 3 := by decide +kernel
  obtain ⟨one, two, three⟩ := count
  obtain ⟨run, -, -⟩ := envelope_run reachable (by decide : Channel.two ≠ .three)
  have after {events : List Event} {n : Nat} (quiet : ∀ e ∈ events, e.disturbs .two = false)
      (clocks : volumeClocks .two note events = n) :
      ((note.play events).envelope .two).volume.toNat = min 15 (14 + (n - 1)) := by
    have volume := run power 0x80 events (by decide) quiet
    simp only [register, seven] at volume
    rw [show s.act (.write (controlReg .two) 0x80) = note from rfl, clocks,
      if_pos (by decide : hasBit 0xE9 0x08 = true)] at volume
    have moved : (if 1 = 0 ∨ n < 1 then 0 else (n - 1) / 1) = n - 1 := by
      split <;> omega
    exact volume.trans (congrArg (fun u => min 15 (14 + u)) moved)
  obtain ⟨-, -, rests⟩ := envelope_run last (by decide : Channel.two ≠ .three)
  have top : (high.envelope .two).volume.toNat = 15 := (after (quiet 17) three).trans (by decide)
  refine ⟨power, seven, on, (after (quiet 1) one).trans (by decide),
    (after (quiet 9) two).trans (by decide), off, fun k => ?_⟩
  rw [rests off _ (quiet k)]
  exact top

end Sound

end DotMatrix
