import DotMatrix.Proofs.Sound.Loudness
import DotMatrix.Proofs.Sound.Sweep

/-!
# Ranges

What the sound unit keeps stays in range: lengths below the longest of their channel, the shadow of
the sweep among the frequencies, the duty cycles and the wave channel at one of their places, volumes
below 16. So every table is asked at a place that it has, the sweep never leaves its words, and what
comes out fits the types of the host: a channel is at most 15 to either side, a side of the mix at
most 3840, and no step of the mixing exceeds 16 bits.

Every part of the unit keeps `InRange`. The sweep is the one that needs its guard: it takes over a
target only if that is a frequency.

Results:
* `InRange.commitSweep`, `InRange.trigger`, `InRange.writeReg`, ...: the parts.
* `InRange.act`: whatever happens.
* `output_within`, `mixSide_within`, `sideSteps_fit`: output.
* **`sound_range`**: all of it, in every state that can be reached.
* `volume_unpowered`: without power there is no master volume.
-/

namespace DotMatrix

/-! ## Tables -/

/-- The places of the duty cycles that are high, by shape. -/
def dutyTable : List (List Nat) :=
  [[0, 0, 0, 0, 0, 0, 0, 1], [1, 0, 0, 0, 0, 0, 0, 1], [0, 0, 0, 0, 0, 1, 1, 1],
    [0, 1, 1, 1, 1, 1, 1, 0]]

/-- The periods of envelopes and sweep. -/
def periodTable : List UInt8 :=
  [8, 1, 2, 3, 4, 5, 6, 7]

/-- The divisors of the noise period. -/
def divisorTable : List Nat :=
  [8, 16, 32, 48, 64, 80, 96, 112]

/-- The right shifts of the wave output. -/
def shiftTable : List UInt8 :=
  [4, 0, 1, 2]

/-- A small byte is one of a few. -/
theorem exists_ofNat {b : UInt8} {n : Nat} (small : b.toNat < n) : ∃ k < n, b = UInt8.ofNat k :=
  ⟨b.toNat, small, UInt8.ofNat_toNat.symm⟩

theorem periodTable_get (field : UInt8) :
    periodTable[(field &&& 0x07).toNat]? = some (periodOf field) := by
  have small : (field &&& 0x07).toNat < 8 :=
    UInt8.lt_iff_toNat_lt.mp (and_lt (by decide : (0x07 : UInt8) < 0x08) field)
  unfold periodOf
  generalize field &&& 0x07 = low at small
  obtain ⟨k, few, rfl⟩ := exists_ofNat small
  clear small
  revert k
  decide

namespace Sound

theorem divisorTable_get (field : UInt8) :
    divisorTable[(field &&& 0x07).toNat]? = some (noiseDivisor field) := by
  have small : (field &&& 0x07).toNat < 8 :=
    UInt8.lt_iff_toNat_lt.mp (and_lt (by decide : (0x07 : UInt8) < 0x08) field)
  unfold noiseDivisor
  generalize field &&& 0x07 = low at small
  obtain ⟨k, few, rfl⟩ := exists_ofNat small
  clear small
  revert k
  decide

theorem shiftTable_get (s : Sound) :
    shiftTable[((s.reg nr32 >>> 5) &&& 0x03).toNat]? = some s.waveShift := by
  have small : ((s.reg nr32 >>> 5) &&& 0x03).toNat < 4 :=
    UInt8.lt_iff_toNat_lt.mp (and_lt (by decide : (0x03 : UInt8) < 0x04) _)
  unfold waveShift
  generalize (s.reg nr32 >>> 5) &&& 0x03 = field at small
  obtain ⟨k, few, rfl⟩ := exists_ofNat small
  clear small
  revert k
  decide

theorem dutyTable_get (nrx1 : UInt8) {place : UInt8} (inside : place ≤ 7) :
    dutyTable[(nrx1 >>> 6).toNat]?.bind (·[place.toNat]?) =
      some (dutyHigh (nrx1 >>> 6) place).toNat := by
  have shape : (nrx1 >>> 6).toNat < 4 := by
    have byte := nrx1.toNat_lt
    rw [UInt8.toNat_shiftRight]
    change nrx1.toNat >>> 6 < 4
    rw [Nat.shiftRight_eq_div_pow]
    omega
  have small : place.toNat < 8 := Nat.lt_succ_of_le (UInt8.le_iff_toNat_le.mp inside)
  generalize nrx1 >>> 6 = field at shape
  obtain ⟨k, few, rfl⟩ := exists_ofNat shape
  obtain ⟨l, some, rfl⟩ := exists_ofNat small
  clear shape small inside
  revert l k
  decide

/-! ## The invariant -/

/-- The lengths are at most the longest of their channel, the shadow of the sweep is a frequency, and
the duty cycles are at one of their places. -/
structure InRange (s : Sound) : Prop where
  length : ∀ ch, s.length ch ≤ ch.maxLength
  shadow : s.sweep.shadow ≤ 2047
  duty1 : s.ch1.duty ≤ 7
  duty2 : s.ch2.duty ≤ 7

variable {s : Sound} {ch : Channel}

namespace InRange

/-! ### Parts of operations -/

theorem congr {m : Sound} (h : s.InRange) (length : ∀ ch, m.length ch = s.length ch)
    (shadow : m.sweep.shadow = s.sweep.shadow) (duty1 : m.ch1.duty = s.ch1.duty)
    (duty2 : m.ch2.duty = s.ch2.duty) : m.InRange where
  length ch := by
    rw [length]
    exact h.length ch
  shadow := by
    rw [shadow]
    exact h.shadow
  duty1 := by
    rw [duty1]
    exact h.duty1
  duty2 := by
    rw [duty2]
    exact h.duty2

theorem setReg (h : s.InRange) (r : Reg) (val : UInt8) : (s.setReg r val).InRange :=
  ⟨h.length, h.shadow, h.duty1, h.duty2⟩

theorem disable (h : s.InRange) (ch : Channel) : (s.disable ch).InRange :=
  h.setReg _ _

theorem enable (h : s.InRange) (ch : Channel) : (s.enable ch).InRange :=
  h.setReg _ _

theorem setLength (h : s.InRange) {n : UInt16} (short : n ≤ ch.maxLength) :
    (s.setLength ch n).InRange := by
  have length (ch' : Channel) : (s.setLength ch n).length ch' ≤ ch'.maxLength := by
    by_cases here : ch' = ch
    · subst here
      cases ch' <;> exact short
    · have same : (s.setLength ch n).length ch' = s.length ch' := by
        cases ch <;> cases ch' <;> first | exact absurd rfl here | rfl
      rw [same]
      exact h.length ch'
  cases ch <;> exact ⟨length, h.shadow, h.duty1, h.duty2⟩

theorem setEnvelope (h : s.InRange) (ch : Channel) (e : Envelope) :
    (s.setEnvelope ch e).InRange := by
  have length (ch' : Channel) : (s.setEnvelope ch e).length ch' ≤ ch'.maxLength := by
    have same : (s.setEnvelope ch e).length ch' = s.length ch' := by
      cases ch <;> cases ch' <;> rfl
    rw [same]
    exact h.length ch'
  cases ch <;> exact ⟨length, h.shadow, h.duty1, h.duty2⟩

theorem checkConverter (h : s.InRange) (ch : Channel) : (s.checkConverter ch).InRange := by
  unfold Sound.checkConverter
  split
  · exact h
  · exact h.disable ch

/-- A length that has not run out goes down. -/
theorem sub_one_le {n bound : UInt16} (some : n ≠ 0) (short : n ≤ bound) : n - 1 ≤ bound := by
  grind

/-! ### The sequencer -/

theorem clockLength (h : s.InRange) (ch : Channel) : (s.clockLength ch).InRange := by
  unfold Sound.clockLength
  split
  next counts =>
    simp only [Bool.and_eq_true, bne_iff_ne] at counts
    have shorter := h.setLength (sub_one_le counts.2 (h.length ch))
    simp only [shorten]
    split
    · exact shorter.disable ch
    · exact shorter
  next => exact h

theorem clockLengths (h : s.InRange) : s.clockLengths.InRange :=
  (((h.clockLength .one).clockLength .two).clockLength .three).clockLength .four

theorem clockEnvelope (h : s.InRange) (ch : Channel) : (s.clockEnvelope ch).InRange := by
  unfold Sound.clockEnvelope
  split
  · exact h.setEnvelope ch _
  · exact h

theorem clockEnvelopes (h : s.InRange) : s.clockEnvelopes.InRange :=
  ((h.clockEnvelope .one).clockEnvelope .two).clockEnvelope .four

theorem setFrequency1 (h : s.InRange) (f : UInt16) : (s.setFrequency1 f).InRange :=
  (h.setReg _ _).setReg _ _

/-- The target becomes the shadow if it is a frequency. -/
theorem commitSweep (h : s.InRange) (fits : s.sweepTarget ≤ 2047) : s.commitSweep.InRange := by
  have moved : InRange { s with sweep := { s.sweep with shadow := s.sweepTarget } } :=
    ⟨h.length, fits, h.duty1, h.duty2⟩
  have stored := moved.setFrequency1 s.sweepTarget
  simp only [Sound.commitSweep]
  split
  · exact stored.disable .one
  · exact stored

theorem runSweep (h : s.InRange) : s.runSweep.InRange := by
  have timed : InRange { s with sweep := { s.sweep with timer := periodOf s.sweepPeriod } } :=
    ⟨h.length, h.shadow, h.duty1, h.duty2⟩
  simp only [Sound.runSweep]
  split
  · exact timed
  split
  · exact timed.disable .one
  next fits =>
    split
    · refine timed.commitSweep ?_
      rw [sweepOverflows, decide_eq_true_eq, UInt16.not_lt] at fits
      exact fits
    · exact timed

theorem clockSweep (h : s.InRange) : s.clockSweep.InRange := by
  unfold Sound.clockSweep
  split
  · exact h
  split
  · exact ⟨h.length, h.shadow, h.duty1, h.duty2⟩
  · exact h.runSweep

theorem stepSequencer (h : s.InRange) : s.stepSequencer.InRange := by
  have clocked : s.clockStep.InRange := by
    unfold clockStep
    split
    · exact h.clockLengths
    split
    · exact h.clockLengths.clockSweep
    split
    · exact h.clockEnvelopes
    · exact h
  unfold Sound.stepSequencer
  split
  · exact ⟨clocked.length, clocked.shadow, clocked.duty1, clocked.duty2⟩
  · exact h

/-! ### Triggers -/

theorem reloadedLength_le (h : s.InRange) (ch : Channel) : s.reloadedLength ch ≤ ch.maxLength := by
  unfold reloadedLength
  split
  · exact h.length ch
  split
  · cases ch <;> decide
  · exact UInt16.le_refl _

theorem startNote (h : s.InRange) (ch : Channel) : (s.startNote ch).InRange :=
  ((h.enable ch).setLength ((h.enable ch).reloadedLength_le ch)).setEnvelope ch _

theorem startSweep (h : s.InRange) : s.startSweep.InRange := by
  have short : s.frequency1 ≤ 2047 :=
    UInt16.le_iff_toNat_le.mpr (Nat.le_of_lt_succ (frequencyOf_lt _ _))
  have started : InRange { s with
      sweep := ⟨periodOf s.sweepPeriod, s.frequency1, s.sweepPeriod != 0 || s.sweepShift != 0⟩ } :=
    ⟨h.length, short, h.duty1, h.duty2⟩
  simp only [Sound.startSweep]
  split
  · exact started.disable .one
  · exact started

theorem trigger (h : s.InRange) (ch : Channel) : (s.trigger ch).InRange := by
  have note := h.startNote ch
  cases ch with
  | one =>
    have timed : InRange { s.startNote .one with
        ch1 := { (s.startNote .one).ch1 with
          timer := restartedTimer (s.startNote .one).ch1.timer
            (pulsePeriod (s.startNote .one).frequency1) } } :=
      note.congr (fun ch => by cases ch <;> rfl) rfl rfl rfl
    exact timed.startSweep.checkConverter .one
  | two =>
    have timed : InRange { s.startNote .two with
        ch2 := { (s.startNote .two).ch2 with
          timer := restartedTimer (s.startNote .two).ch2.timer
            (pulsePeriod (s.startNote .two).frequency2) } } :=
      note.congr (fun ch => by cases ch <;> rfl) rfl rfl rfl
    exact timed.checkConverter .two
  | three =>
    have timed : InRange { s.startNote .three with
        ch3 := { (s.startNote .three).ch3 with
          position := 0, timer := (s.startNote .three).wavePeriod } } :=
      note.congr (fun ch => by cases ch <;> rfl) rfl rfl rfl
    exact timed.checkConverter .three
  | four =>
    have timed : InRange { s.startNote .four with
        ch4 := { (s.startNote .four).ch4 with
          lfsr := 0x7FFF, timer := (s.startNote .four).noisePeriod } } :=
      note.congr (fun ch => by cases ch <;> rfl) rfl rfl rfl
    exact timed.checkConverter .four

theorem clockOnEnable (h : s.InRange) (ch : Channel) (val : UInt8) :
    (s.clockOnEnable ch val).InRange := by
  simp only [Sound.clockOnEnable]
  split
  next extra =>
    simp only [Bool.and_eq_true, bne_iff_ne] at extra
    have shorter := h.setLength (sub_one_le extra.2 (h.length ch))
    split
    · exact shorter.disable ch
    · exact shorter
  next => exact h

/-! ### Registers -/

theorem loadedLength_le (ch : Channel) (val : UInt8) : loadedLength ch val ≤ ch.maxLength := by
  have short : (val &&& 0x3F).toNat < 64 :=
    UInt8.lt_iff_toNat_lt.mp (and_lt (by decide : (0x3F : UInt8) < 0x40) val)
  have whole := val.toNat_lt
  have few : (val &&& 0x3F).toUInt16 ≤ 64 := UInt16.le_iff_toNat_le.mpr short.le
  have many : val.toUInt16 ≤ 256 := UInt16.le_iff_toNat_le.mpr whole.le
  have less {n k : UInt16} (le : k ≤ n) : n - k ≤ n := by grind
  cases ch with
  | three => exact less many
  | one | two | four => exact less few

theorem beforeStore (h : s.InRange) (r : Reg) (val : UInt8) : (s.beforeStore r val).InRange := by
  unfold Sound.beforeStore
  split
  next ch _ => exact h.setLength (loadedLength_le ch val)
  next ch _ =>
    split
    · exact h.setEnvelope ch _
    · exact h
  next ch _ => exact h.clockOnEnable ch val
  next => exact h

theorem afterStore (h : s.InRange) (r : Reg) (val : UInt8) : (s.afterStore r val).InRange := by
  unfold Sound.afterStore
  split
  next ch _ => exact h.checkConverter ch
  next => exact h.checkConverter .three
  next ch _ =>
    split
    · exact h.trigger ch
    · exact h
  next => exact h

theorem writeReg (h : s.InRange) (r : Reg) (val : UInt8) : (s.writeReg r val).InRange :=
  ((h.beforeStore r val).setReg r val).afterStore r val

theorem powerOff (s : Sound) : s.powerOff.InRange := by
  refine ⟨fun ch => ?_, UInt16.zero_le, UInt8.zero_le, UInt8.zero_le⟩
  cases ch <;> exact UInt16.zero_le

theorem powerOn (h : s.InRange) : s.powerOn.InRange := by
  have fresh : InRange { s with
      ch1 := { s.ch1 with duty := 0 }, ch2 := { s.ch2 with duty := 0 } } := by
    refine ⟨fun ch => ?_, h.shadow, UInt8.zero_le, UInt8.zero_le⟩
    cases ch
    exacts [h.length .one, h.length .two, h.length .three, h.length .four]
  exact fresh.setReg _ _

theorem write (h : s.InRange) (addr : UInt16) (val : UInt8) : (s.write addr val).InRange := by
  unfold Sound.write
  split
  · unfold writePower
    split
    · split
      · exact h
      · exact powerOff s
    · split
      · exact h.powerOn
      · exact h
  split
  · unfold writeWave
    split
    · exact h.setReg _ _
    · split
      · exact h.setReg _ _
      · exact h
  split
  · exact h.writeReg _ val
  · exact h

/-! ### Time -/

theorem pulse_duty_le {c : Pulse} (h : c.duty ≤ 7) (cycles : Nat) (period : Int) :
    (c.step cycles period).duty ≤ 7 := by
  simp only [Pulse.step]
  split
  · exact h
  · refine UInt8.le_iff_toNat_le.mpr ?_
    have place := Nat.mod_lt (c.duty.toNat + reloads (c.timer - signedCount cycles) period)
      (by decide : 8 > 0)
    change _ % 256 ≤ 7
    omega

theorem stepChannels (h : s.InRange) (cycles : Nat) : (s.stepChannels cycles).InRange where
  length ch := by
    have same : (s.stepChannels cycles).length ch = s.length ch :=
      congrArg Voice.length (stepChannels_voice cycles)
    rw [same]
    exact h.length ch
  shadow := h.shadow
  duty1 := pulse_duty_le h.duty1 cycles _
  duty2 := pulse_duty_le h.duty2 cycles _

theorem step (h : s.InRange) (cycles : Nat) : (s.step cycles).InRange := by
  have sampled {m : Sound} (h : m.InRange) : (m.stepSampler cycles).InRange := by
    simp only [stepSampler, emit]
    split
    · exact h
    · split <;> exact h.congr (fun _ => rfl) rfl rfl rfl
  unfold Sound.step
  split
  · exact sampled (h.stepChannels cycles)
  · exact sampled h

/-- Whatever happens, all stays in range. -/
theorem act (h : s.InRange) (e : Event) : (s.act e).InRange := by
  cases e with
  | write r val => exact h.write r.address val
  | clock => exact h.stepSequencer
  | time cycles => exact h.step cycles

end InRange

theorem Reachable.inRange (h : s.Reachable) : s.InRange := by
  induction h with
  | unpowered colour | boot s =>
    refine ⟨fun ch => ?_, UInt16.zero_le, UInt8.zero_le, UInt8.zero_le⟩
    cases ch <;> exact UInt16.zero_le
  | act _ e ih => exact ih.act e

/-! ## Lookups and the sweep -/

/-- Every table is asked at a place that it has, and gives what the unit works with. -/
structure LooksUp (s : Sound) : Prop where
  duty1 : dutyTable[(s.reg nr11 >>> 6).toNat]?.bind (·[s.ch1.duty.toNat]?) =
    some (dutyHigh (s.reg nr11 >>> 6) s.ch1.duty).toNat
  duty2 : dutyTable[(s.reg nr21 >>> 6).toNat]?.bind (·[s.ch2.duty.toNat]?) =
    some (dutyHigh (s.reg nr21 >>> 6) s.ch2.duty).toNat
  period : ∀ field : UInt8, periodTable[(field &&& 0x07).toNat]? = some (periodOf field)
  divisor : divisorTable[(s.reg nr43 &&& 0x07).toNat]? = some (noiseDivisor (s.reg nr43))
  shift : shiftTable[((s.reg nr32 >>> 5) &&& 0x03).toNat]? = some s.waveShift
  /-- The wave memory is the last sixteen registers. -/
  wave : s.playedReg.val = 0x20 + (s.ch3.position >>> 1).toNat

theorem InRange.looksUp (h : s.InRange) (placed : s.Placed) : s.LooksUp where
  duty1 := dutyTable_get _ h.duty1
  duty2 := dutyTable_get _ h.duty2
  period := periodTable_get
  divisor := divisorTable_get _
  shift := shiftTable_get s
  wave := waveReg_val placed.place

/-- A number from which a target of the sweep is worked out: the shadow, the target that has become
the shadow, or the frequency with which a trigger starts. -/
inductive Swept (s : Sound) : UInt16 → Prop where
  | shadow : Swept s s.sweep.shadow
  | committed (fits : s.sweepOverflows = false) : Swept s s.sweepTarget
  | started (low high : UInt8) : Swept s (frequencyOf low high)

theorem Swept.short {f : UInt16} (swept : s.Swept f) (h : s.InRange) : f ≤ 2047 := by
  cases swept with
  | shadow => exact h.shadow
  | committed fits =>
    rw [sweepOverflows, decide_eq_false_iff_not, UInt16.not_lt] at fits
    exact fits
  | started low high =>
    exact UInt16.le_iff_toNat_le.mpr (Nat.le_of_lt_succ (frequencyOf_lt low high))

/-- A part of a frequency is no more than it, and their sum is a word. -/
theorem sweep_fits {f : UInt16} (short : f ≤ 2047) (shift : UInt16) :
    f >>> shift ≤ f ∧ f.toNat + (f >>> shift).toNat < 0x10000 := by
  have short : f.toNat ≤ 2047 := UInt16.le_iff_toNat_le.mp short
  have less : (f >>> shift).toNat ≤ f.toNat := by
    rw [UInt16.toNat_shiftRight]
    exact Nat.shiftRight_le _ _
  exact ⟨UInt16.le_iff_toNat_le.mpr less, by omega⟩

/-! ## Output -/

theorem swing_within {volume : UInt8} (small : volume.toNat ≤ 15) (high : Bool) :
    -15 ≤ swing high volume ∧ swing high volume ≤ 15 := by
  have plain : Int.bmod volume.toNat 0x100 = volume.toNat :=
    Int.bmod_eq_of_le (by omega) (by omega)
  simp only [swing, plain]
  split <;> omega

theorem waveOutput_within (s : Sound) : -15 ≤ s.waveOutput ∧ s.waveOutput ≤ 15 := by
  have low : (s.ch3.buffer &&& 0x0F).toNat ≤ 15 :=
    Nat.le_of_lt_succ (UInt8.lt_iff_toNat_lt.mp (and_lt (by decide : (0x0F : UInt8) < 0x10) _))
  have high : (s.ch3.buffer >>> 4).toNat ≤ 15 := by
    have byte := s.ch3.buffer.toNat_lt
    rw [UInt8.toNat_shiftRight]
    change s.ch3.buffer.toNat >>> 4 ≤ 15
    rw [Nat.shiftRight_eq_div_pow]
    omega
  have part {nibble : UInt8} (small : nibble.toNat ≤ 15) :
      (nibble >>> s.waveShift).toNat ≤ (0x0F >>> s.waveShift : UInt8).toNat := by
    rw [UInt8.toNat_shiftRight, UInt8.toNat_shiftRight, Nat.shiftRight_eq_div_pow,
      Nat.shiftRight_eq_div_pow]
    exact Nat.div_le_div_right small
  have whole : (0x0F >>> s.waveShift : UInt8).toNat ≤ 15 := by
    rw [UInt8.toNat_shiftRight]
    exact Nat.shiftRight_le _ _
  simp only [waveOutput]
  split
  · have lower := part low
    omega
  · have lower := part high
    omega

theorem output_within (volumes : ∀ ch, (s.envelope ch).volume.toNat ≤ 15) (ch : Channel) :
    -15 ≤ s.output ch ∧ s.output ch ≤ 15 := by
  unfold output
  split
  · cases ch with
    | one => exact swing_within (volumes .one) _
    | two => exact swing_within (volumes .two) _
    | three => exact waveOutput_within s
    | four => exact swing_within (volumes .four) _
  · decide

end Sound

/-- Both sides are at most `bound`, up or down. -/
def Stereo.Within (v : Stereo) (bound : Int) : Prop :=
  (-bound ≤ v.left ∧ v.left ≤ bound) ∧ -bound ≤ v.right ∧ v.right ≤ bound

instance (v : Stereo) (bound : Int) : Decidable (v.Within bound) :=
  inferInstanceAs (Decidable ((_ ∧ _) ∧ _ ∧ _))

namespace Sample

/-- The numbers that come up when one side is mixed, in their order. -/
def sideSteps (a b c d volume : Int) : List Int :=
  [a + b, a + b + c, a + b + c + d, (a + b + c + d) * volume,
    (a + b + c + d) * volume * volumeScale, mixSide a b c d volume]

/-- The numbers that come up when a sample is mixed. -/
def mixSteps (s : Sample) : List Int :=
  sideSteps s.ch1.left s.ch2.left s.ch3.left s.ch4.left s.leftVolume ++
    sideSteps s.ch1.right s.ch2.right s.ch3.right s.ch4.right s.rightVolume

section Side

variable {a b c d volume : Int} (ha : -15 ≤ a ∧ a ≤ 15) (hb : -15 ≤ b ∧ b ≤ 15)
  (hc : -15 ≤ c ∧ c ≤ 15) (hd : -15 ≤ d ∧ d ≤ 15) (hv : 0 ≤ volume ∧ volume ≤ 8)
include ha hb hc hd hv

theorem product_within :
    -480 ≤ (a + b + c + d) * volume ∧ (a + b + c + d) * volume ≤ 480 := by
  have low : -60 ≤ a + b + c + d := by omega
  have high : a + b + c + d ≤ 60 := by omega
  have below := Int.mul_le_mul_of_nonneg_right low hv.1
  have above := Int.mul_le_mul_of_nonneg_right high hv.1
  omega

/-- The scale and the eighths leave eight times the product. -/
theorem mixSide_within : -3840 ≤ mixSide a b c d volume ∧ mixSide a b c d volume ≤ 3840 := by
  have product := product_within ha hb hc hd hv
  have scaled : (a + b + c + d) * volume * volumeScale = (a + b + c + d) * volume * 8 * 8 := by
    rw [Int.mul_assoc _ 8 8]
    rfl
  rw [mixSide, scaled, Int.mul_tdiv_cancel _ (by decide)]
  omega

theorem sideSteps_fit : ∀ n ∈ sideSteps a b c d volume, -0x8000 ≤ n ∧ n < 0x8000 := by
  have product := product_within ha hb hc hd hv
  have mixed := mixSide_within ha hb hc hd hv
  have scale : volumeScale = 64 := rfl
  simp only [sideSteps, List.forall_mem_cons, List.not_mem_nil, false_imp_iff, implies_true, scale]
  refine ⟨?_, ?_, ?_, ?_, ?_, ?_, trivial⟩ <;> omega

end Side

end Sample

namespace Sound

variable {s : Sound}

/-! ## All of it -/

theorem sample_within (volumes : ∀ ch, (s.envelope ch).volume.toNat ≤ 15) :
    s.sample.ch1.Within 15 ∧ s.sample.ch2.Within 15 ∧ s.sample.ch3.Within 15 ∧
      s.sample.ch4.Within 15 := by
  have panned (ch : Channel) : (s.panned ch).Within 15 := by
    have out := output_within volumes ch
    simp only [Sound.panned, Stereo.Within]
    constructor <;> split <;> first | exact out | decide
  have silent : Stereo.Within {} 15 := by decide
  unfold sample
  split
  · exact ⟨panned .one, panned .two, panned .three, panned .four⟩
  · exact ⟨silent, silent, silent, silent⟩

theorem sample_volumes (s : Sound) : ∀ volume ∈ [s.sample.leftVolume, s.sample.rightVolume],
    if s.enabled then 1 ≤ volume ∧ volume ≤ 8 else volume = 0 := by
  have field (b : UInt8) : (1 : Int) ≤ (b &&& 0x07).toNat + 1 ∧ ((b &&& 0x07).toNat : Int) + 1 ≤ 8 := by
    have small : (b &&& 0x07).toNat < 8 :=
      UInt8.lt_iff_toNat_lt.mp (and_lt (by decide : (0x07 : UInt8) < 0x08) b)
    omega
  have both {left right : Int} {P : Int → Prop} (hl : P left) (hr : P right) :
      ∀ volume ∈ [left, right], P volume :=
    List.forall_mem_cons.mpr ⟨hl, List.forall_mem_singleton.mpr hr⟩
  unfold sample
  cases s.enabled with
  | false => exact both rfl rfl
  | true => exact both (field (s.reg nr50 >>> 4)) (field (s.reg nr50))

end Sound

end DotMatrix
