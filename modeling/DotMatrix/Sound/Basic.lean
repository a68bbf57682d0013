import DotMatrix.Sound.Channel
import DotMatrix.Sound.Mixer

/-!
# The sound unit

The registers `FF10` to `FF3F` as last written, the state of the four channels, the sequencer that
clocks lengths, sweep and envelopes, and the sampler that hands samples to the host. Here are the
type, the fields of its registers, and the states it starts from.
-/

namespace DotMatrix

/-- The state of the sound unit. `recorder` is the host's list of samples, if it wants any. -/
structure Sound where
  regs : Vector UInt8 0x30
  ch1 : Pulse
  sweep : Sweep
  ch2 : Pulse
  ch3 : Wave
  ch4 : Noise
  sequencer : UInt8
  colour : Bool
  samplePeriod : Nat
  sampleCycles : Nat
  sampleRate : Nat
  recorder : Option (Array Sample)

namespace Sound

/-- The place of a register, counted from `FF10`. -/
abbrev Reg := Fin 0x30

/-- The register at a place; places repeat behind the last one. -/
def Reg.ofNat (n : Nat) : Reg :=
  Fin.ofNat 0x30 n

abbrev nr10 : Reg := 0x00
abbrev nr11 : Reg := 0x01
abbrev nr12 : Reg := 0x02
abbrev nr13 : Reg := 0x03
abbrev nr14 : Reg := 0x04
abbrev nr21 : Reg := 0x06
abbrev nr22 : Reg := 0x07
abbrev nr23 : Reg := 0x08
abbrev nr24 : Reg := 0x09
abbrev nr30 : Reg := 0x0A
abbrev nr31 : Reg := 0x0B
abbrev nr32 : Reg := 0x0C
abbrev nr33 : Reg := 0x0D
abbrev nr34 : Reg := 0x0E
abbrev nr41 : Reg := 0x10
abbrev nr42 : Reg := 0x11
abbrev nr43 : Reg := 0x12
abbrev nr44 : Reg := 0x13
abbrev nr50 : Reg := 0x14
abbrev nr51 : Reg := 0x15
abbrev nr52 : Reg := 0x16

/-- The sample rate of a host that has not chosen one. -/
def defaultSampleRate : Nat := 48000

/-- The clock that the sample period divides. -/
def sampleClock : Nat := 4213440

/-- The unit without power, as it leaves the factory. -/
def unpowered (colour : Bool) : Sound :=
  { regs := Vector.replicate 0x30 0
    ch1 := {}
    sweep := {}
    ch2 := {}
    ch3 := {}
    ch4 := {}
    sequencer := 0
    colour := colour
    samplePeriod := 0
    sampleCycles := 0
    sampleRate := defaultSampleRate
    recorder := none }

instance : Inhabited Sound := ⟨unpowered false⟩

/-- A register as last written. -/
def reg (s : Sound) (r : Reg) : UInt8 :=
  s.regs[r]

/-- Stores a register, with no further effect. -/
def setReg (s : Sound) (r : Reg) (val : UInt8) : Sound :=
  { s with regs := s.regs.set r val }

/-! ## Register fields -/

/-- The master power bit. -/
def enabled (s : Sound) : Bool :=
  hasBit (s.reg nr52) 0x80

/-- The status bit of a channel. -/
def channelOn (s : Sound) (ch : Channel) : Bool :=
  hasBit (s.reg nr52) ch.mask

/-- Sets the status bit of a channel. -/
def enable (s : Sound) (ch : Channel) : Sound :=
  s.setReg nr52 (s.reg nr52 ||| ch.mask)

/-- Clears the status bit of a channel. -/
def disable (s : Sound) (ch : Channel) : Sound :=
  s.setReg nr52 (s.reg nr52 &&& ~~~ch.mask)

/-- The register that triggers a channel and enables its length. -/
def controlReg : Channel → Reg
  | .one => nr14
  | .two => nr24
  | .three => nr34
  | .four => nr44

/-- The register whose upper bits switch the converter of a channel. -/
def converterReg : Channel → Reg
  | .one => nr12
  | .two => nr22
  | .three => nr30
  | .four => nr42

/-- The bits that switch the converter of a channel on. -/
def converterMask : Channel → UInt8
  | .three => 0x80
  | _ => 0xF8

/-- Whether the digital to analogue converter of a channel is on. -/
def converterOn (s : Sound) (ch : Channel) : Bool :=
  hasBit (s.reg (converterReg ch)) (converterMask ch)

/-- Whether the length of a channel counts. -/
def lengthEnabled (s : Sound) (ch : Channel) : Bool :=
  hasBit (s.reg (controlReg ch)) 0x40

/-- The eleven-bit frequency in two registers. -/
def frequencyOf (low high : UInt8) : UInt16 :=
  word (high &&& 0x07) low

/-- The frequency of channel 1. -/
def frequency1 (s : Sound) : UInt16 :=
  frequencyOf (s.reg nr13) (s.reg nr14)

/-- The frequency of channel 2. -/
def frequency2 (s : Sound) : UInt16 :=
  frequencyOf (s.reg nr23) (s.reg nr24)

/-- The frequency of channel 3. -/
def frequency3 (s : Sound) : UInt16 :=
  frequencyOf (s.reg nr33) (s.reg nr34)

/-- Stores the frequency of channel 1. -/
def setFrequency1 (s : Sound) (f : UInt16) : Sound :=
  let s := s.setReg nr13 (lowByte f)
  s.setReg nr14 ((s.reg nr14 &&& 0xF8) ||| (highByte f &&& 0x07))

/-- The period of a pulse channel with the given frequency. -/
def pulsePeriod (frequency : UInt16) : Int :=
  (2048 - frequency.toNat) * 4

/-- The period of the wave channel. -/
def wavePeriod (s : Sound) : Int :=
  (2048 - s.frequency3.toNat) * 2

/-- The shift of the noise period. -/
def noiseShift (s : Sound) : Nat :=
  (s.reg nr43 >>> 4).toNat

/-- Whether the noise channel uses the narrow form of its shift register. -/
def noiseNarrow (s : Sound) : Bool :=
  hasBit (s.reg nr43) 0x08

/-- The divisor of the noise period: 8, then the multiples of 16. -/
def noiseDivisor (field : UInt8) : Nat :=
  if field &&& 0x07 == 0 then 8 else (field &&& 0x07).toNat * 16

/-- The period of the noise channel. -/
def noisePeriod (s : Sound) : Int :=
  (noiseDivisor (s.reg nr43) <<< s.noiseShift : Nat)

/-- The sweep period field. -/
def sweepPeriod (s : Sound) : UInt8 :=
  (s.reg nr10 >>> 4) &&& 0x07

/-- Whether the sweep lowers the frequency. -/
def sweepNegative (s : Sound) : Bool :=
  hasBit (s.reg nr10) 0x08

/-- The sweep shift field. -/
def sweepShift (s : Sound) : UInt8 :=
  s.reg nr10 &&& 0x07

/-! ## Lengths and envelopes by channel -/

/-- The length left of a channel. -/
def length (s : Sound) : Channel → UInt16
  | .one => s.ch1.length
  | .two => s.ch2.length
  | .three => s.ch3.length
  | .four => s.ch4.length

/-- Sets the length left of a channel. -/
def setLength (s : Sound) (ch : Channel) (n : UInt16) : Sound :=
  match ch with
  | .one => { s with ch1 := { s.ch1 with length := n } }
  | .two => { s with ch2 := { s.ch2 with length := n } }
  | .three => { s with ch3 := { s.ch3 with length := n } }
  | .four => { s with ch4 := { s.ch4 with length := n } }

/-- The envelope of a channel; the wave channel has none. -/
def envelope (s : Sound) : Channel → Envelope
  | .one => s.ch1.envelope
  | .two => s.ch2.envelope
  | .three => {}
  | .four => s.ch4.envelope

/-- Sets the envelope of a channel that has one. -/
def setEnvelope (s : Sound) (ch : Channel) (e : Envelope) : Sound :=
  match ch with
  | .one => { s with ch1 := { s.ch1 with envelope := e } }
  | .two => { s with ch2 := { s.ch2 with envelope := e } }
  | .three => s
  | .four => { s with ch4 := { s.ch4 with envelope := e } }

/-! ## Power-up and the host's side -/

/-- The registers that the boot program leaves behind, without the wave memory. -/
def bootRegs : Array UInt8 :=
  #[0x80, 0xBF, 0xF3, 0xFF, 0xBF, 0xFF, 0x3F, 0x00, 0xFF, 0xBF, 0x7F, 0xFF, 0x9F, 0xFF, 0xBF, 0xFF,
    0xFF, 0x00, 0x00, 0xBF, 0x77, 0xF3, 0xF1, 0xFF, 0xFF, 0xFF, 0xFF, 0xFF, 0xFF, 0xFF, 0xFF, 0xFF]

/-- The state that the boot program leaves behind; the wave memory is kept. -/
def boot (s : Sound) : Sound :=
  { s with
    regs := Vector.ofFn fun i => if i.val < 0x20 then bootRegs.getD i.val 0 else s.regs[i]
    ch1 := {}
    sweep := {}
    ch2 := {}
    ch3 := {}
    ch4 := { lfsr := 0x7FFF }
    sequencer := 0
    sampleCycles := 0 }

/-- The host asks for `rate` samples a second; without a recorder no samples are taken. -/
def setSampleRate (s : Sound) (rate : Nat) : Sound :=
  let rate := max rate 1
  { s with
    sampleRate := rate
    samplePeriod := if s.recorder.isSome then max (sampleClock / rate) 1 else 0
    sampleCycles := 0 }

/-- The host installs or removes its recorder. -/
def setRecorder (s : Sound) (recorder : Option (Array Sample)) (rate : Nat) : Sound :=
  setSampleRate { s with recorder := recorder } rate

/-- The host takes the samples that have been recorded. -/
def takeSamples (s : Sound) : Array Sample × Sound :=
  (s.recorder.getD #[], { s with recorder := s.recorder.map fun _ => #[] })

/-- Takes over the host's side of `old`. -/
def adoptHost (s old : Sound) : Sound :=
  { s with
    recorder := old.recorder
    sampleRate := old.sampleRate
    samplePeriod := old.samplePeriod }

end Sound

end DotMatrix
