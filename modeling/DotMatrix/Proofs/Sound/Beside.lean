import DotMatrix.Proofs.Sound.Voice
import DotMatrix.Sound.Output
import DotMatrix.Sound.Registers

/-!
# What lies beside the sound unit

The unit works with some of its registers, with its channels and with its sequencer. A change that
spares all of these, of registers that nothing sees or of the sampler, can be made before an
operation or after it (`Beside`): the operation does the same either way. All follows from the few
things that operations are made of: a register is read or stored, or parts are replaced.

Results:
* `Beside.onParts`: parts are replaced by what is worked out from them.
* `Beside.stepSequencer`, `Beside.trigger`, `Beside.writeReg`, `Beside.write`: the operations.
* `Beside.stepChannels`, `Beside.sample`: time and output.
-/

namespace DotMatrix

namespace Sound

/-- The channels, the sweep and the sequencer. -/
structure Parts where
  ch1 : Pulse := {}
  sweep : Sweep := {}
  ch2 : Pulse := {}
  ch3 : Wave := {}
  ch4 : Noise := {}
  sequencer : UInt8 := 0
  deriving DecidableEq

/-- The parts of the unit. -/
def parts (s : Sound) : Parts :=
  { ch1 := s.ch1, sweep := s.sweep, ch2 := s.ch2, ch3 := s.ch3, ch4 := s.ch4
    sequencer := s.sequencer }

/-- The unit with other parts. -/
def withParts (s : Sound) (p : Parts) : Sound :=
  { s with
    ch1 := p.ch1, sweep := p.sweep, ch2 := p.ch2, ch3 := p.ch3, ch4 := p.ch4
    sequencer := p.sequencer }

/-- A change beside what the unit works with: the registers that are seen, and the parts, stay. -/
structure Beside (seen : Reg → Prop) (φ : Sound → Sound) : Prop where
  reg : ∀ s {r}, seen r → (φ s).reg r = s.reg r
  setReg : ∀ s {r}, seen r → ∀ val, φ (s.setReg r val) = (φ s).setReg r val
  parts : ∀ s, (φ s).parts = s.parts
  withParts : ∀ s p, φ (s.withParts p) = (φ s).withParts p
  colour : ∀ s, (φ s).colour = s.colour
  powerOff : ∀ s, φ s.powerOff = (φ s).powerOff
  named : ∀ {r : Reg}, r.val ≤ 0x16 → seen r
  wave : ∀ {r : Reg}, 0x20 ≤ r.val → seen r

theorem controlReg_named (ch : Channel) : (controlReg ch).val ≤ 0x16 := by
  cases ch <;> decide

theorem converterReg_named (ch : Channel) : (converterReg ch).val ≤ 0x16 := by
  cases ch <;> decide

namespace Beside

variable {seen : Reg → Prop} {φ : Sound → Sound} (h : Beside seen φ) (s : Sound) (ch : Channel)
include h

/-! ## What is seen -/

theorem onParts (f : Parts → Parts) :
    φ (s.withParts (f s.parts)) = (φ s).withParts (f (φ s).parts) := by
  rw [h.withParts, h.parts]

theorem ch1 : (φ s).ch1 = s.ch1 := congrArg Parts.ch1 (h.parts s)

theorem ch2 : (φ s).ch2 = s.ch2 := congrArg Parts.ch2 (h.parts s)

theorem ch3 : (φ s).ch3 = s.ch3 := congrArg Parts.ch3 (h.parts s)

theorem ch4 : (φ s).ch4 = s.ch4 := congrArg Parts.ch4 (h.parts s)

theorem sweep : (φ s).sweep = s.sweep := congrArg Parts.sweep (h.parts s)

theorem sequencer : (φ s).sequencer = s.sequencer := congrArg Parts.sequencer (h.parts s)

theorem low {r : Reg} (le : r.val ≤ 0x16) : (φ s).reg r = s.reg r := h.reg s (h.named le)

theorem enabled : (φ s).enabled = s.enabled := by
  rw [Sound.enabled, Sound.enabled, h.low s (by decide)]

theorem channelOn : (φ s).channelOn ch = s.channelOn ch := by
  rw [Sound.channelOn, Sound.channelOn, h.low s (by decide)]

theorem converterOn : (φ s).converterOn ch = s.converterOn ch := by
  rw [Sound.converterOn, Sound.converterOn, h.low s (converterReg_named ch)]

theorem lengthEnabled : (φ s).lengthEnabled ch = s.lengthEnabled ch := by
  rw [Sound.lengthEnabled, Sound.lengthEnabled, h.low s (controlReg_named ch)]

theorem length : (φ s).length ch = s.length ch := by
  cases ch with
  | one => exact congrArg Pulse.length (h.ch1 s)
  | two => exact congrArg Pulse.length (h.ch2 s)
  | three => exact congrArg Wave.length (h.ch3 s)
  | four => exact congrArg Noise.length (h.ch4 s)

theorem envelope : (φ s).envelope ch = s.envelope ch := by
  cases ch with
  | one => exact congrArg Pulse.envelope (h.ch1 s)
  | two => exact congrArg Pulse.envelope (h.ch2 s)
  | three => rfl
  | four => exact congrArg Noise.envelope (h.ch4 s)

theorem sweepPeriod : (φ s).sweepPeriod = s.sweepPeriod := by
  rw [Sound.sweepPeriod, Sound.sweepPeriod, h.low s (by decide)]

theorem sweepShift : (φ s).sweepShift = s.sweepShift := by
  rw [Sound.sweepShift, Sound.sweepShift, h.low s (by decide)]

theorem sweepNegative : (φ s).sweepNegative = s.sweepNegative := by
  rw [Sound.sweepNegative, Sound.sweepNegative, h.low s (by decide)]

theorem sweepTarget : (φ s).sweepTarget = s.sweepTarget := by
  rw [Sound.sweepTarget, Sound.sweepTarget, h.sweepNegative, h.sweepShift, h.sweep]

theorem sweepOverflows : (φ s).sweepOverflows = s.sweepOverflows := by
  rw [Sound.sweepOverflows, Sound.sweepOverflows, h.sweepTarget]

theorem frequency1 : (φ s).frequency1 = s.frequency1 := by
  rw [Sound.frequency1, Sound.frequency1, h.low s (by decide), h.low s (by decide)]

theorem frequency2 : (φ s).frequency2 = s.frequency2 := by
  rw [Sound.frequency2, Sound.frequency2, h.low s (by decide), h.low s (by decide)]

theorem wavePeriod : (φ s).wavePeriod = s.wavePeriod := by
  rw [Sound.wavePeriod, Sound.wavePeriod, Sound.frequency3, Sound.frequency3,
    h.low s (by decide), h.low s (by decide)]

theorem noisePeriod : (φ s).noisePeriod = s.noisePeriod := by
  simp only [Sound.noisePeriod, Sound.noiseShift, h.low s (r := nr43) (by decide)]

/-! ## Parts of operations -/

theorem status (status : UInt8) : φ (s.setReg nr52 status) = (φ s).setReg nr52 status :=
  h.setReg s (h.named (by decide)) status

theorem disable : φ (s.disable ch) = (φ s).disable ch := by
  rw [Sound.disable, h.status, Sound.disable, h.low s (by decide)]

theorem enable : φ (s.enable ch) = (φ s).enable ch := by
  rw [Sound.enable, h.status, Sound.enable, h.low s (by decide)]

theorem setLength (n : UInt16) : φ (s.setLength ch n) = (φ s).setLength ch n := by
  cases ch with
  | one => exact h.onParts s fun p => { p with ch1 := { p.ch1 with length := n } }
  | two => exact h.onParts s fun p => { p with ch2 := { p.ch2 with length := n } }
  | three => exact h.onParts s fun p => { p with ch3 := { p.ch3 with length := n } }
  | four => exact h.onParts s fun p => { p with ch4 := { p.ch4 with length := n } }

theorem setEnvelope (e : Envelope) : φ (s.setEnvelope ch e) = (φ s).setEnvelope ch e := by
  cases ch with
  | one => exact h.onParts s fun p => { p with ch1 := { p.ch1 with envelope := e } }
  | two => exact h.onParts s fun p => { p with ch2 := { p.ch2 with envelope := e } }
  | three => rfl
  | four => exact h.onParts s fun p => { p with ch4 := { p.ch4 with envelope := e } }

theorem setSweep (sweep : Sweep) : φ { s with sweep := sweep } = { φ s with sweep := sweep } :=
  h.onParts s fun p => { p with sweep := sweep }

theorem setFrequency1 (f : UInt16) : φ (s.setFrequency1 f) = (φ s).setFrequency1 f := by
  have low := h.setReg s (h.named (show nr13.val ≤ 0x16 by decide)) (lowByte f)
  simp only [Sound.setFrequency1]
  rw [h.setReg _ (h.named (by decide)), low, ← low, h.low _ (by decide)]

/-! ## The sequencer -/

theorem shorten : φ (s.shorten ch) = (φ s).shorten ch := by
  simp only [Sound.shorten, apply_ite φ, h.disable, h.setLength, h.length]

theorem clockLength : φ (s.clockLength ch) = (φ s).clockLength ch := by
  simp only [Sound.clockLength, apply_ite φ, h.shorten, h.lengthEnabled, h.length]

theorem clockLengths : φ s.clockLengths = (φ s).clockLengths := by
  simp only [Sound.clockLengths, h.clockLength]

theorem clockEnvelope : φ (s.clockEnvelope ch) = (φ s).clockEnvelope ch := by
  simp only [Sound.clockEnvelope, apply_ite φ, h.setEnvelope, h.channelOn, h.envelope,
    h.low s (converterReg_named ch)]

theorem clockEnvelopes : φ s.clockEnvelopes = (φ s).clockEnvelopes := by
  simp only [Sound.clockEnvelopes, h.clockEnvelope]

theorem commitSweep : φ s.commitSweep = (φ s).commitSweep := by
  have moved : φ (Sound.setFrequency1
      { s with sweep := { s.sweep with shadow := s.sweepTarget } } s.sweepTarget) =
      Sound.setFrequency1 { φ s with sweep := { (φ s).sweep with shadow := (φ s).sweepTarget } }
        (φ s).sweepTarget := by
    rw [h.setFrequency1, h.setSweep, h.sweep, h.sweepTarget]
  simp only [Sound.commitSweep, apply_ite φ, h.disable]
  rw [← moved, h.sweepOverflows]

theorem runSweep : φ s.runSweep = (φ s).runSweep := by
  have timed : φ { s with sweep := { s.sweep with timer := periodOf s.sweepPeriod } } =
      { φ s with sweep := { (φ s).sweep with timer := periodOf (φ s).sweepPeriod } } := by
    rw [h.setSweep, h.sweep, h.sweepPeriod]
  simp only [Sound.runSweep, apply_ite φ, h.disable, h.commitSweep]
  rw [← timed, h.sweepPeriod, h.sweepOverflows, h.sweepShift]

theorem clockSweep : φ s.clockSweep = (φ s).clockSweep := by
  have counted : φ { s with sweep := { s.sweep with timer := s.sweep.timer - 1 } } =
      { φ s with sweep := { (φ s).sweep with timer := (φ s).sweep.timer - 1 } } := by
    rw [h.setSweep, h.sweep]
  simp only [Sound.clockSweep, apply_ite φ, h.runSweep, counted, h.channelOn, h.sweep]

theorem clockStep : φ s.clockStep = (φ s).clockStep := by
  simp only [Sound.clockStep, apply_ite φ, h.clockLengths, h.clockSweep, h.clockEnvelopes,
    h.sequencer]

theorem stepSequencer : φ s.stepSequencer = (φ s).stepSequencer := by
  have counted (m : Sound) : φ { m with sequencer := (m.sequencer + 1) &&& 7 } =
      { φ m with sequencer := ((φ m).sequencer + 1) &&& 7 } :=
    h.onParts m fun p => { p with sequencer := (p.sequencer + 1) &&& 7 }
  simp only [Sound.stepSequencer, apply_ite φ, counted, h.clockStep, h.enabled]

/-! ## Triggers -/

theorem nextSkipsLength : (φ s).nextSkipsLength = s.nextSkipsLength := by
  rw [Sound.nextSkipsLength, Sound.nextSkipsLength, h.sequencer]

theorem reloadedLength : (φ s).reloadedLength ch = s.reloadedLength ch := by
  simp only [Sound.reloadedLength, h.length, h.lengthEnabled, h.nextSkipsLength]

theorem startNote : φ (s.startNote ch) = (φ s).startNote ch := by
  have begun : φ ((s.enable ch).setLength ch ((s.enable ch).reloadedLength ch)) =
      ((φ s).enable ch).setLength ch (((φ s).enable ch).reloadedLength ch) := by
    rw [h.setLength, ← h.reloadedLength, h.enable]
  simp only [Sound.startNote]
  rw [h.setEnvelope, ← begun, h.low _ (converterReg_named ch), Sound.nextClocksVolume,
    Sound.nextClocksVolume, h.sequencer]

theorem checkConverter : φ (s.checkConverter ch) = (φ s).checkConverter ch := by
  simp only [Sound.checkConverter, apply_ite φ, h.disable, h.converterOn]

theorem startSweep : φ s.startSweep = (φ s).startSweep := by
  have started : φ { s with
        sweep := ⟨periodOf s.sweepPeriod, s.frequency1, s.sweepPeriod != 0 || s.sweepShift != 0⟩ } =
      { φ s with
        sweep := ⟨periodOf (φ s).sweepPeriod, (φ s).frequency1,
          (φ s).sweepPeriod != 0 || (φ s).sweepShift != 0⟩ } := by
    rw [h.setSweep, h.sweepPeriod, h.frequency1, h.sweepShift]
  simp only [Sound.startSweep, apply_ite φ, h.disable]
  rw [← started, h.sweepShift, h.sweepOverflows]

theorem trigger : φ (s.trigger ch) = (φ s).trigger ch := by
  have note := h.startNote s ch
  cases ch with
  | one =>
    have timed (m : Sound) : φ { m with
          ch1 := { m.ch1 with timer := restartedTimer m.ch1.timer (pulsePeriod m.frequency1) } } =
        { φ m with ch1 := { (φ m).ch1 with
          timer := restartedTimer (φ m).ch1.timer (pulsePeriod (φ m).frequency1) } } := by
      rw [h.frequency1]
      exact h.onParts m fun p => { p with
        ch1 := { p.ch1 with timer := restartedTimer p.ch1.timer (pulsePeriod m.frequency1) } }
    simp only [Sound.trigger, h.checkConverter, h.startSweep, timed, note]
  | two =>
    have timed (m : Sound) : φ { m with
          ch2 := { m.ch2 with timer := restartedTimer m.ch2.timer (pulsePeriod m.frequency2) } } =
        { φ m with ch2 := { (φ m).ch2 with
          timer := restartedTimer (φ m).ch2.timer (pulsePeriod (φ m).frequency2) } } := by
      rw [h.frequency2]
      exact h.onParts m fun p => { p with
        ch2 := { p.ch2 with timer := restartedTimer p.ch2.timer (pulsePeriod m.frequency2) } }
    simp only [Sound.trigger, h.checkConverter, timed, note]
  | three =>
    have timed (m : Sound) :
        φ { m with ch3 := { m.ch3 with position := 0, timer := m.wavePeriod } } =
          { φ m with ch3 := { (φ m).ch3 with position := 0, timer := (φ m).wavePeriod } } := by
      rw [h.wavePeriod]
      exact h.onParts m fun p => { p with ch3 := { p.ch3 with position := 0, timer := m.wavePeriod } }
    simp only [Sound.trigger, h.checkConverter, timed, note]
  | four =>
    have timed (m : Sound) :
        φ { m with ch4 := { m.ch4 with lfsr := 0x7FFF, timer := m.noisePeriod } } =
          { φ m with ch4 := { (φ m).ch4 with lfsr := 0x7FFF, timer := (φ m).noisePeriod } } := by
      rw [h.noisePeriod]
      exact h.onParts m fun p => { p with
        ch4 := { p.ch4 with lfsr := 0x7FFF, timer := m.noisePeriod } }
    simp only [Sound.trigger, h.checkConverter, timed, note]

theorem clockOnEnable (val : UInt8) : φ (s.clockOnEnable ch val) = (φ s).clockOnEnable ch val := by
  simp only [Sound.clockOnEnable, apply_ite φ, h.disable, h.setLength, h.length, h.lengthEnabled,
    h.nextSkipsLength]

/-! ## Registers -/

theorem beforeStore {r : Reg} (here : seen r) (val : UInt8) :
    φ (s.beforeStore r val) = (φ s).beforeStore r val := by
  unfold Sound.beforeStore
  cases roleOf r with
  | length ch => exact h.setLength s ch _
  | envelope ch =>
    simp only [apply_ite φ, h.setEnvelope, h.channelOn, h.envelope, h.reg s here]
  | control ch => exact h.clockOnEnable s ch val
  | waveConverter | plain => rfl

theorem afterStore (r : Reg) (val : UInt8) : φ (s.afterStore r val) = (φ s).afterStore r val := by
  unfold Sound.afterStore
  cases roleOf r with
  | envelope ch => exact h.checkConverter s ch
  | waveConverter => exact h.checkConverter s .three
  | control ch => simp only [apply_ite φ, h.trigger]
  | length | plain => rfl

theorem writeReg {r : Reg} (here : seen r) (val : UInt8) :
    φ (s.writeReg r val) = (φ s).writeReg r val := by
  simp only [Sound.writeReg, h.afterStore, h.setReg _ here, h.beforeStore _ here]

theorem playedReg : (φ s).playedReg = s.playedReg := by
  rw [Sound.playedReg, Sound.playedReg, h.ch3]

theorem waveReachable : (φ s).waveReachable = s.waveReachable := by
  rw [Sound.waveReachable, Sound.waveReachable, h.colour, h.ch3]

theorem writeWave (played : seen s.playedReg) {r : Reg} (here : seen r) (val : UInt8) :
    φ (s.writeWave r val) = (φ s).writeWave r val := by
  simp only [Sound.writeWave, apply_ite φ, h.setReg _ here, h.setReg _ played, h.channelOn,
    h.waveReachable, h.playedReg]

theorem writePower (val : UInt8) : φ (s.writePower val) = (φ s).writePower val := by
  have on : φ s.powerOn = (φ s).powerOn := by
    have fresh := h.onParts s fun p =>
      { p with ch1 := { p.ch1 with duty := 0 }, ch2 := { p.ch2 with duty := 0 } }
    refine (h.status _ _).trans ?_
    rw [Sound.powerOn, h.low s (by decide)]
    exact congrArg (Sound.setReg · nr52 (s.reg nr52 ||| 0x80)) fresh
  simp only [Sound.writePower, apply_ite φ, h.powerOff, on, h.enabled]

/-- Writes to registers that are seen. -/
theorem write (played : seen s.playedReg) {addr : UInt16} (here : seen (regAt addr)) (val : UInt8) :
    φ (s.write addr val) = (φ s).write addr val := by
  simp only [Sound.write, apply_ite φ, h.writePower, h.writeWave s played here, h.writeReg s here,
    h.enabled]

/-- Reads of registers that are seen. -/
theorem read (played : seen s.playedReg) {addr : UInt16} (here : seen (regAt addr)) :
    (φ s).read addr = s.read addr := by
  simp only [Sound.read, h.enabled, h.channelOn, h.waveReachable, h.playedReg, h.reg s played,
    h.reg s here]

/-! ## Time and output -/

theorem stepWave (cycles : Nat) : (φ s).stepWave cycles = s.stepWave cycles := by
  have byte (k : Nat) : (φ s).reg (Reg.ofNat (0x20 + (((k % 32).toUInt8 : UInt8) >>> 1).toNat)) =
      s.reg (Reg.ofNat (0x20 + (((k % 32).toUInt8 : UInt8) >>> 1).toNat)) := by
    have inside : (k % 32).toUInt8 < 32 := by
      have small := Nat.mod_lt k (by decide : 32 > 0)
      rw [UInt8.lt_iff_toNat_lt]
      change k % 32 % 256 < 32
      omega
    refine h.reg s (h.wave ?_)
    rw [waveReg_val inside]
    exact Nat.le_add_right _ _
  simp only [Sound.stepWave, h.ch3, h.wavePeriod, byte]

theorem noiseShift : (φ s).noiseShift = s.noiseShift := by
  rw [Sound.noiseShift, Sound.noiseShift, h.low s (by decide)]

theorem noiseNarrow : (φ s).noiseNarrow = s.noiseNarrow := by
  rw [Sound.noiseNarrow, Sound.noiseNarrow, h.low s (by decide)]

theorem stepNoise (cycles : Nat) : (φ s).stepNoise cycles = s.stepNoise cycles := by
  simp only [Sound.stepNoise, h.noiseShift, h.noiseNarrow, h.noisePeriod, h.ch4]

theorem stepChannels (cycles : Nat) : φ (s.stepChannels cycles) = (φ s).stepChannels cycles := by
  -- What one channel does is nothing to the next.
  have stepped (m : Sound) : m.stepChannels cycles = m.withParts { m.parts with
      ch1 := m.ch1.step cycles (pulsePeriod m.frequency1)
      ch2 := m.ch2.step cycles (pulsePeriod m.frequency2)
      ch3 := m.stepWave cycles
      ch4 := m.stepNoise cycles } := rfl
  rw [stepped, stepped, h.withParts, h.parts, h.ch1, h.ch2, h.frequency1, h.frequency2, h.stepWave,
    h.stepNoise]

theorem waveShift : (φ s).waveShift = s.waveShift := by
  rw [Sound.waveShift, Sound.waveShift, h.low s (by decide)]

theorem output : (φ s).output ch = s.output ch := by
  cases ch with
  | one =>
    simp only [Sound.output, h.converterOn, h.channelOn, h.ch1, h.low s (r := nr11) (by decide)]
  | two =>
    simp only [Sound.output, h.converterOn, h.channelOn, h.ch2, h.low s (r := nr21) (by decide)]
  | three => simp only [Sound.output, waveOutput, h.converterOn, h.channelOn, h.ch3, h.waveShift]
  | four => simp only [Sound.output, noiseOutput, h.converterOn, h.channelOn, h.ch4]

theorem sample : (φ s).sample = s.sample := by
  simp only [Sound.sample, Sound.panned, h.enabled, h.output, h.low s (r := nr50) (by decide),
    h.low s (r := nr51) (by decide)]

end Beside

end Sound

end DotMatrix
