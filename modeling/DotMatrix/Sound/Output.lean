import DotMatrix.Sound.Sequencer

/-!
# Sound output

What the channels sound like at a moment (`sample`), and how they and the sampler move on with
time (`step`).
-/

namespace DotMatrix

namespace Sound

/-- Whether the duty cycle `shape` is high at `place` of its eight. -/
def dutyHigh (shape place : UInt8) : Bool :=
  if shape == 0 then place == 7
  else if shape == 1 then place == 0 || place == 7
  else if shape == 2 then 5 ≤ place
  else 1 ≤ place && place ≤ 6

/-- A volume as an amplitude, or as its opposite. The volume is taken in two's complement, which
shows only beyond 127. -/
def swing (high : Bool) (volume : UInt8) : Int :=
  let amplitude := Int.bmod volume.toNat 0x100
  if high then amplitude else -amplitude

/-- The output of a pulse channel. -/
def pulseOutput (c : Pulse) (nrx1 : UInt8) : Int :=
  swing (dutyHigh (nrx1 >>> 6) c.duty) c.envelope.volume

/-- The right shift of the wave output: 4 mutes it. -/
def waveShift (s : Sound) : UInt8 :=
  let field := (s.reg nr32 >>> 5) &&& 0x03
  if field == 0 then 4 else field - 1

/-- The output of the wave channel. -/
def waveOutput (s : Sound) : Int :=
  let nibble :=
    if s.ch3.position &&& 1 != 0 then s.ch3.buffer &&& 0x0F else s.ch3.buffer >>> 4
  2 * ((nibble >>> s.waveShift).toNat : Int) - ((0x0F >>> s.waveShift : UInt8).toNat : Int)

/-- The output of the noise channel. -/
def noiseOutput (s : Sound) : Int :=
  swing (s.ch4.lfsr &&& 1 == 0) s.ch4.envelope.volume

/-- The output of a channel, silent when it is off. -/
def output (s : Sound) (ch : Channel) : Int :=
  if s.converterOn ch && s.channelOn ch then
    match ch with
    | .one => pulseOutput s.ch1 (s.reg nr11)
    | .two => pulseOutput s.ch2 (s.reg nr21)
    | .three => s.waveOutput
    | .four => s.noiseOutput
  else 0

/-- The output of a channel on the sides that NR51 gives it. -/
def panned (s : Sound) (ch : Channel) : Stereo :=
  let out := s.output ch
  { left := if hasBit (s.reg nr51) (ch.mask <<< 4) then out else 0
    right := if hasBit (s.reg nr51) ch.mask then out else 0 }

/-- The present sample; all zero without power. -/
def sample (s : Sound) : Sample :=
  if s.enabled then
    { ch1 := s.panned .one
      ch2 := s.panned .two
      ch3 := s.panned .three
      ch4 := s.panned .four
      leftVolume := ((s.reg nr50 >>> 4) &&& 0x07).toNat + 1
      rightVolume := (s.reg nr50 &&& 0x07).toNat + 1 }
  else {}

/-! ## Time -/

/-- `cycles` pass for the wave channel: each reload moves on by one nibble and fetches its byte. -/
def stepWave (s : Sound) (cycles : Nat) : Wave :=
  let c := s.ch3
  let t := c.timer - signedCount cycles
  if 0 < t then { c with timer := t, window := c.window - cycles }
  else
    let period := s.wavePeriod
    let k := reloads t period
    let position := ((c.position.toNat + k) % 32).toUInt8
    { c with
      timer := t + k * period
      position := position
      buffer := s.reg (Reg.ofNat (0x20 + (position >>> 1).toNat))
      window := 2 }

/-- `cycles` pass for the noise channel; with a shift of 14 or 15 it stands still. -/
def stepNoise (s : Sound) (cycles : Nat) : Noise :=
  if s.noiseShift < 14 then s.ch4.step cycles s.noisePeriod s.noiseNarrow else s.ch4

/-- `cycles` pass for the channels. -/
def stepChannels (s : Sound) (cycles : Nat) : Sound :=
  let s := { s with ch1 := s.ch1.step cycles (pulsePeriod s.frequency1) }
  let s := { s with ch2 := s.ch2.step cycles (pulsePeriod s.frequency2) }
  let s := { s with ch3 := s.stepWave cycles }
  { s with ch4 := s.stepNoise cycles }

/-- Hands the host `n` copies of the present sample. -/
def emit (s : Sound) (n : Nat) : Sound :=
  if n = 0 then s
  else
    let now := s.sample
    { s with recorder := s.recorder.map fun heard => heard ++ Array.replicate n now }

/-- `cycles` pass for the sampler: one sample for every whole period. -/
def stepSampler (s : Sound) (cycles : Nat) : Sound :=
  if s.samplePeriod = 0 then s
  else
    let total := s.sampleCycles + cycles
    emit { s with sampleCycles := total % s.samplePeriod } (total / s.samplePeriod)

/-- `cycles` pass. -/
def step (s : Sound) (cycles : Nat) : Sound :=
  let s := if s.enabled then s.stepChannels cycles else s
  s.stepSampler cycles

end Sound

end DotMatrix
