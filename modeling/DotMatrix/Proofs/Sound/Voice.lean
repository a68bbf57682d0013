import DotMatrix.Proofs.Word
import DotMatrix.Sound.Trigger

/-!
# The voice of a channel

A few things decide when a channel falls silent: the power, its status bit, its converter, whether
its length counts, and the length that is left. They are its `Voice`. Here is what the parts of the
sound unit do to the voice of each channel.

Results:
* `status_setReg_voice`, `disable_voice`, `enable_voice`: the status register.
* `clockLengths_voice`, **`stepSequencer_voice`**, `stepSequencer_other`: the sequencer.
* `trigger_voice`, `trigger_sounds`, `trigger_other`: triggers.
* `waveReg_val`: the register behind a place of the wave channel.
* `clockStep_places`, `trigger_places`: the places of the sequencer and of the wave channel.
-/

namespace DotMatrix

/-- What decides when a channel falls silent. -/
structure Voice where
  power : Bool
  on : Bool
  converter : Bool
  counts : Bool
  length : UInt16
  deriving DecidableEq

namespace Voice

/-- The voice of a unit without power. -/
def silent : Voice :=
  { power := false, on := false, converter := false, counts := false, length := 0 }

/-- The status bit goes off. -/
def stopped (v : Voice) : Voice :=
  { v with on := false }

/-- One clock of the length, if it counts and has not run out. -/
def clocked (v : Voice) : Voice :=
  if v.counts && v.length != 0 then
    { v with on := v.on && v.length - 1 != 0, length := v.length - 1 }
  else v

/-- The same voice, or the voice stopped. -/
def Held (v v' : Voice) : Prop :=
  v' = v ∨ v' = v.stopped

end Voice

namespace Sound

/-- The voice of a channel. -/
def voice (s : Sound) (ch : Channel) : Voice :=
  { power := s.enabled
    on := s.channelOn ch
    converter := s.converterOn ch
    counts := s.lengthEnabled ch
    length := s.length ch }

variable (s : Sound) (ch ch' : Channel)

/-! ## Parts of operations -/

theorem reg_setReg (r r' : Reg) (val : UInt8) :
    (s.setReg r val).reg r' = if r' = r then val else s.reg r' := by
  simp only [reg, setReg, Fin.getElem_fin, Vector.getElem_set, Fin.ext_iff, eq_comm]

/-- The status bits of two channels are apart. -/
theorem mask_other : hasBit ch.mask ch'.mask = decide (ch' = ch) := by
  cases ch <;> cases ch' <;> decide

/-- The power bit is none of the status bits. -/
theorem mask_power : hasBit ch.mask 0x80 = false := by
  cases ch <;> decide

theorem and_not_mask (b : UInt8) :
    hasBit (b &&& ~~~ch.mask) ch'.mask = (hasBit b ch'.mask && decide (ch' ≠ ch)) := by
  have masks : ~~~ch.mask &&& ch'.mask = if ch' = ch then 0 else ch'.mask := by
    cases ch <;> cases ch' <;> decide
  rw [hasBit, UInt8.and_assoc, masks]
  split
  next same => simp [same]
  next other => simp [other, hasBit]

theorem and_not_mask_power (b : UInt8) : hasBit (b &&& ~~~ch.mask) 0x80 = hasBit b 0x80 := by
  have masks : ~~~ch.mask &&& 0x80 = 0x80 := by
    cases ch <;> decide
  rw [hasBit, UInt8.and_assoc, masks, hasBit]

/-- A register that has no part in the voices. -/
def Reg.Mute (r : Reg) : Prop :=
  r ≠ nr52 ∧ ∀ ch, r ≠ controlReg ch ∧ r ≠ converterReg ch

theorem setReg_voice {r : Reg} (mute : r.Mute) (val : UInt8) :
    (s.setReg r val).voice ch = s.voice ch := by
  obtain ⟨status, other⟩ := mute
  obtain ⟨control, converter⟩ := other ch
  simp only [voice, enabled, channelOn, converterOn, lengthEnabled, reg_setReg, if_neg status.symm,
    if_neg control.symm, if_neg converter.symm]
  cases ch <;> rfl

theorem setEnvelope_voice (e : Envelope) : (s.setEnvelope ch e).voice ch' = s.voice ch' := by
  cases ch <;> cases ch' <;> rfl

theorem setLength_voice (n : UInt16) :
    (s.setLength ch n).voice ch' =
      if ch' = ch then { s.voice ch' with length := n } else s.voice ch' := by
  cases ch <;> cases ch' <;> rfl

theorem status_setReg_voice (status : UInt8) :
    (s.setReg nr52 status).voice ch =
      { s.voice ch with power := hasBit status 0x80, on := hasBit status ch.mask } := by
  simp only [voice, enabled, channelOn, converterOn, lengthEnabled, reg_setReg]
  cases ch <;> rfl

theorem disable_voice :
    (s.disable ch).voice ch' = if ch' = ch then (s.voice ch').stopped else s.voice ch' := by
  rw [disable, status_setReg_voice, and_not_mask, and_not_mask_power]
  split
  next same => simp [voice, Voice.stopped, enabled, same]
  next other => simp [voice, enabled, channelOn, other]

theorem enable_voice :
    (s.enable ch).voice ch' = { s.voice ch' with on := s.channelOn ch' || decide (ch' = ch) } := by
  rw [enable, status_setReg_voice, hasBit_or, hasBit_or, mask_other, mask_power, Bool.or_false]
  rfl

theorem control_setReg_voice (val : UInt8) :
    (s.setReg (controlReg ch) val).voice ch' =
      if ch' = ch then { s.voice ch' with counts := hasBit val 0x40 } else s.voice ch' := by
  simp only [voice, enabled, channelOn, converterOn, lengthEnabled, reg_setReg]
  cases ch <;> cases ch' <;> rfl

theorem converter_setReg_voice (val : UInt8) :
    (s.setReg (converterReg ch) val).voice ch' =
      if ch' = ch then { s.voice ch' with converter := hasBit val (converterMask ch) }
      else s.voice ch' := by
  simp only [voice, enabled, channelOn, converterOn, lengthEnabled, reg_setReg]
  cases ch <;> cases ch' <;> rfl

/-! ## The sequencer -/

theorem shorten_voice : (s.shorten ch).voice ch' = if ch' = ch then
    { s.voice ch' with on := s.channelOn ch && s.length ch - 1 != 0, length := s.length ch - 1 }
    else s.voice ch' := by
  simp only [shorten, apply_ite (voice · ch'), disable_voice, setLength_voice]
  by_cases same : ch' = ch
  · subst same
    by_cases out : s.length ch' - 1 = 0
    · simp [out, Voice.stopped]
    · simp [out, voice]
  · simp only [if_neg same, ite_self]

theorem clockLength_voice :
    (s.clockLength ch).voice ch' = if ch' = ch then (s.voice ch').clocked else s.voice ch' := by
  simp only [clockLength, apply_ite (voice · ch'), shorten_voice]
  by_cases same : ch' = ch
  · subst same
    rw [if_pos rfl, if_pos rfl]
    rfl
  · simp only [if_neg same, ite_self]

theorem clockLengths_voice : s.clockLengths.voice ch = (s.voice ch).clocked := by
  cases ch <;> simp [clockLengths, clockLength_voice]

theorem clockEnvelope_voice : (s.clockEnvelope ch).voice ch' = s.voice ch' := by
  unfold clockEnvelope
  split
  · exact setEnvelope_voice s ch ch' _
  · rfl

theorem clockEnvelopes_voice : s.clockEnvelopes.voice ch = s.voice ch := by
  rw [clockEnvelopes, clockEnvelope_voice, clockEnvelope_voice, clockEnvelope_voice]

/-- A frequency has eleven bits. -/
theorem frequencyOf_lt (low high : UInt8) : (frequencyOf low high).toNat < 2048 := by
  have bits := UInt8.lt_iff_toNat_lt.mp (and_lt (by decide : (0x07 : UInt8) < 0x08) high)
  have byte := low.toNat_lt
  rw [frequencyOf, word_toNat]
  change _ < 8 at bits
  omega

/-- The sweep leaves the bit alone that makes the length count. -/
theorem setFrequency1_voice (f : UInt16) : (s.setFrequency1 f).voice ch = s.voice ch := by
  have counts (b high : UInt8) :
      hasBit ((b &&& 0xF8) ||| (high &&& 0x07)) 0x40 = hasBit b 0x40 := by
    have kept : b &&& 0xF8 &&& 0x40 = b &&& 0x40 := UInt8.and_assoc b 0xF8 0x40
    have low : high &&& 0x07 &&& 0x40 = 0 :=
      (UInt8.and_assoc high 0x07 0x40).trans UInt8.and_zero
    rw [hasBit_or, hasBit, hasBit, kept, low]
    exact Bool.or_false _
  have mute : Reg.Mute nr13 := ⟨by decide, fun ch => by cases ch <;> decide⟩
  unfold setFrequency1
  refine (control_setReg_voice _ .one ch _).trans ?_
  simp only [setReg_voice _ _ mute]
  split
  next one =>
    subst one
    rw [counts, reg_setReg, if_neg (by decide)]
    rfl
  · rfl

theorem disable_held : (s.voice ch').Held ((s.disable ch).voice ch') := by
  rw [disable_voice]
  split
  · exact .inr rfl
  · exact .inl rfl

theorem commitSweep_held : (s.voice ch).Held (s.commitSweep.voice ch) := by
  have moved : (setFrequency1 { s with sweep := { s.sweep with shadow := s.sweepTarget } }
      s.sweepTarget).voice ch = s.voice ch := setFrequency1_voice _ ch _
  simp only [commitSweep]
  split
  · rw [← moved]
    exact disable_held _ .one ch
  · rw [moved]
    exact .inl rfl

theorem runSweep_held : (s.voice ch).Held (s.runSweep.voice ch) := by
  simp only [runSweep]
  split
  · exact .inl rfl
  split
  · exact disable_held { s with sweep := { s.sweep with timer := periodOf s.sweepPeriod } } .one ch
  split
  · exact commitSweep_held { s with sweep := { s.sweep with timer := periodOf s.sweepPeriod } } ch
  · exact .inl rfl

theorem clockSweep_held : (s.voice ch).Held (s.clockSweep.voice ch) := by
  unfold clockSweep
  split
  · exact .inl rfl
  split
  · exact .inl rfl
  · exact runSweep_held s ch

theorem sequencer_cases (step : s.sequencer < 8) :
    s.sequencer = 0 ∨ s.sequencer = 1 ∨ s.sequencer = 2 ∨ s.sequencer = 3 ∨ s.sequencer = 4 ∨
      s.sequencer = 5 ∨ s.sequencer = 6 ∨ s.sequencer = 7 := by
  grind

/-- The sweep has to do with the first channel alone. -/
theorem clockSweep_other (other : ch ≠ .one) : s.clockSweep.voice ch = s.voice ch := by
  have stop (m : Sound) : (m.disable .one).voice ch = m.voice ch := by
    rw [disable_voice, if_neg other]
  have commit (m : Sound) : m.commitSweep.voice ch = m.voice ch := by
    simp only [commitSweep]
    split
    · rw [stop, setFrequency1_voice]
      rfl
    · rw [setFrequency1_voice]
      rfl
  simp only [clockSweep, runSweep]
  split
  · rfl
  split
  · rfl
  split
  · rfl
  split
  · exact stop _
  split
  · exact commit _
  · rfl

/-- A step clocks the lengths when its number is even, and perhaps the sweep then. -/
theorem clockStep_voice (step : s.sequencer < 8) :
    ∃ m : Sound, (∀ ch, m.voice ch =
        if s.nextSkipsLength then s.voice ch else (s.voice ch).clocked) ∧
      (s.clockStep = m ∨ s.clockStep = m.clockSweep) := by
  rw [nextSkipsLength, clockStep]
  rcases sequencer_cases s step with n | n | n | n | n | n | n | n <;> rw [n]
  case inl | inr.inr.inr.inr.inl =>
    exact ⟨s.clockLengths, clockLengths_voice s, .inl rfl⟩
  case inr.inr.inl | inr.inr.inr.inr.inr.inr.inl =>
    exact ⟨s.clockLengths, clockLengths_voice s, .inr rfl⟩
  case inr.inr.inr.inr.inr.inr.inr =>
    exact ⟨s.clockEnvelopes, clockEnvelopes_voice s, .inl rfl⟩
  all_goals exact ⟨s, fun _ => rfl, .inl rfl⟩

theorem clockStep_held (step : s.sequencer < 8) :
    (if s.nextSkipsLength then s.voice ch else (s.voice ch).clocked).Held
      (s.clockStep.voice ch) := by
  obtain ⟨m, lengths, same | swept⟩ := clockStep_voice s step
  · rw [same, lengths]
    exact .inl rfl
  · rw [swept, ← lengths]
    exact clockSweep_held m ch

/-- No sweep stops the other channels. -/
theorem stepSequencer_other (power : s.enabled = true) (step : s.sequencer < 8)
    (other : ch ≠ .one) : s.stepSequencer.voice ch =
      if s.nextSkipsLength then s.voice ch else (s.voice ch).clocked := by
  unfold stepSequencer
  rw [if_pos power]
  change s.clockStep.voice ch = _
  obtain ⟨m, lengths, same | swept⟩ := clockStep_voice s step
  · rw [same, lengths]
  · rw [swept, clockSweep_other m ch other, lengths]

/-- **A step of the sequencer** clocks the length when its number is even; the sweep may stop the
voice. -/
theorem stepSequencer_voice (power : s.enabled = true) (step : s.sequencer < 8) :
    (if s.nextSkipsLength then s.voice ch else (s.voice ch).clocked).Held
      (s.stepSequencer.voice ch) := by
  unfold stepSequencer
  rw [if_pos power]
  exact clockStep_held s ch step

/-! ## Triggers -/

theorem checkConverter_voice : (s.checkConverter ch).voice ch' =
    if ch' = ch then { s.voice ch' with on := s.channelOn ch && s.converterOn ch }
    else s.voice ch' := by
  simp only [checkConverter, apply_ite (voice · ch'), disable_voice]
  by_cases same : ch' = ch
  · subst same
    cases converter : s.converterOn ch' <;> simp [Voice.stopped, voice]
  · simp only [if_neg same, ite_self]

/-- A trigger never leaves a length of zero. -/
theorem reloadedLength_ne : s.reloadedLength ch ≠ 0 := by
  unfold reloadedLength
  split
  next some => exact bne_iff_ne.mp some
  split
  · cases ch <;> decide
  · cases ch <;> decide

theorem startNote_voice : (s.startNote ch).voice ch' = if ch' = ch then
    { s.voice ch' with on := true, length := s.reloadedLength ch' } else s.voice ch' := by
  have reload : (s.enable ch).reloadedLength ch = s.reloadedLength ch := by
    have counts : (s.enable ch).lengthEnabled ch = s.lengthEnabled ch :=
      congrArg Voice.counts (enable_voice s ch ch)
    have length : (s.enable ch).length ch = s.length ch :=
      congrArg Voice.length (enable_voice s ch ch)
    simp only [reloadedLength, counts, length]
    rfl
  simp only [startNote, setEnvelope_voice, setLength_voice, enable_voice, reload]
  by_cases same : ch' = ch
  · subst same
    simp
  · simp [same, voice]

theorem startSweep_held : (s.voice ch).Held (s.startSweep.voice ch) := by
  simp only [startSweep]
  split
  · exact disable_held { s with sweep := _ } .one ch
  · exact .inl rfl

theorem startSweep_other (other : ch ≠ .one) : s.startSweep.voice ch = s.voice ch := by
  simp only [startSweep]
  split
  · rw [disable_voice, if_neg other]
    rfl
  · rfl

/-- A note that has been started, and perhaps stopped by the sweep, goes on if there is a
converter. -/
theorem checkConverter_started {m : Sound} (held : ((s.startNote ch).voice ch).Held (m.voice ch)) :
    ∃ on, (on = true → s.converterOn ch = true) ∧ (m.checkConverter ch).voice ch =
      { s.voice ch with on := on, length := s.reloadedLength ch } := by
  rw [startNote_voice, if_pos rfl] at held
  have converter : m.converterOn ch = s.converterOn ch := by
    rcases held with same | stopped
    · exact congrArg Voice.converter same
    · exact congrArg Voice.converter stopped
  refine ⟨m.channelOn ch && m.converterOn ch, ?_, ?_⟩
  · rw [← converter]
    exact fun on => (Bool.and_eq_true_iff.mp on).2
  · rw [checkConverter_voice, if_pos rfl]
    rcases held with same | stopped
    · rw [same]
    · rw [stopped]
      rfl

/-- A trigger leaves the voice of its channel on or, if the converter is off or the sweep overflows,
off again; and with a length. -/
theorem trigger_voice : ∃ on, (on = true → s.converterOn ch = true) ∧ (s.trigger ch).voice ch =
    { s.voice ch with on := on, length := s.reloadedLength ch } := by
  cases ch with
  | one => exact checkConverter_started s .one (startSweep_held _ .one)
  | two | three | four => exact checkConverter_started s _ (.inl rfl)

/-- A trigger of another channel than the first leaves it on exactly when there is a converter. -/
theorem trigger_sounds (other : ch ≠ .one) : (s.trigger ch).voice ch =
    { s.voice ch with on := s.converterOn ch, length := s.reloadedLength ch } := by
  have checked (m : Sound) (note : m.voice ch = (s.startNote ch).voice ch) :
      (m.checkConverter ch).voice ch =
        { s.voice ch with on := s.converterOn ch, length := s.reloadedLength ch } := by
    rw [startNote_voice, if_pos rfl] at note
    have on : m.channelOn ch = true := congrArg Voice.on note
    have converter : m.converterOn ch = s.converterOn ch := congrArg Voice.converter note
    rw [checkConverter_voice, if_pos rfl, note, on, converter, Bool.true_and]
  cases ch with
  | one => exact absurd rfl other
  | two | three | four => exact checked _ rfl

theorem trigger_other (other : ch' ≠ ch) : (s.trigger ch).voice ch' = s.voice ch' := by
  have note : (s.startNote ch).voice ch' = s.voice ch' := by rw [startNote_voice, if_neg other]
  rw [← note]
  cases ch with
  | one =>
    refine (checkConverter_voice _ .one ch').trans ?_
    rw [if_neg other, startSweep_other _ _ other]
    rfl
  | two | three | four =>
    refine (checkConverter_voice _ _ ch').trans ?_
    rw [if_neg other]
    rfl

/-! ## Places -/

/-- The wave memory has a register for every place of the wave channel. -/
theorem waveReg_val {place : UInt8} (inside : place < 32) :
    (Reg.ofNat (0x20 + (place >>> 1).toNat)).val = 0x20 + (place >>> 1).toNat := by
  have small : place.toNat < 32 := UInt8.lt_iff_toNat_lt.mp inside
  have half : (place >>> 1).toNat = place.toNat / 2 := by
    rw [UInt8.toNat_shiftRight]
    exact Nat.shiftRight_eq_div_pow _ 1
  exact Nat.mod_eq_of_lt (by omega)

/-- Where the sequencer and the wave channel are. -/
def places (s : Sound) : UInt8 × UInt8 :=
  (s.sequencer, s.ch3.position)

theorem setLength_places (n : UInt16) : (s.setLength ch n).places = s.places := by
  cases ch <;> rfl

theorem setEnvelope_places (e : Envelope) : (s.setEnvelope ch e).places = s.places := by
  cases ch <;> rfl

theorem disable_places : (s.disable ch).places = s.places := rfl

theorem checkConverter_places : (s.checkConverter ch).places = s.places := by
  simp only [checkConverter, apply_ite places, disable_places, ite_self]

theorem clockLength_places : (s.clockLength ch).places = s.places := by
  simp only [clockLength, shorten, apply_ite places, disable_places, setLength_places, ite_self]

theorem clockLengths_places : s.clockLengths.places = s.places := by
  simp only [clockLengths, clockLength_places]

theorem clockSweep_places : s.clockSweep.places = s.places := by
  simp only [clockSweep, runSweep, commitSweep]
  repeat' split
  all_goals rfl

theorem clockEnvelope_places : (s.clockEnvelope ch).places = s.places := by
  simp only [clockEnvelope, apply_ite places, setEnvelope_places, ite_self]

theorem clockEnvelopes_places : s.clockEnvelopes.places = s.places := by
  simp only [clockEnvelopes, clockEnvelope_places]

theorem clockStep_places : s.clockStep.places = s.places := by
  simp only [clockStep, apply_ite places, clockSweep_places, clockLengths_places,
    clockEnvelopes_places, ite_self]

/-- A trigger of the wave channel takes it back to its first place. -/
theorem trigger_places :
    (s.trigger ch).places = (s.sequencer, if ch = .three then 0 else s.ch3.position) := by
  have note : (s.startNote ch).places = s.places := by
    simp only [startNote, setEnvelope_places, setLength_places]
    rfl
  have h : (s.startNote ch).sequencer = s.sequencer := congrArg Prod.fst note
  have h' : (s.startNote ch).ch3.position = s.ch3.position := congrArg Prod.snd note
  unfold trigger
  cases ch <;> simp only [checkConverter_places]
  · simp only [startSweep, apply_ite places, disable_places]
    simp [places, h, h']
  all_goals simp [places, h, h']
end Sound

end DotMatrix
