import DotMatrix.Sound.Basic

/-!
# The frame sequencer

Eight steps, one for every fall of the divider bit that paces them. Even steps clock the lengths,
steps 2 and 6 the sweep as well, and step 7 the envelopes. Without power the sequencer stands
still.
-/

namespace DotMatrix

namespace Sound

/-- Whether the coming step leaves the lengths alone. -/
def nextSkipsLength (s : Sound) : Bool :=
  s.sequencer &&& 1 == 1

/-- Whether the coming step clocks the envelopes. -/
def nextClocksVolume (s : Sound) : Bool :=
  s.sequencer == 7

/-- The length of a channel one lower, and the channel off when nothing is left. -/
def shorten (s : Sound) (ch : Channel) : Sound :=
  let left := s.length ch - 1
  let s := s.setLength ch left
  if left == 0 then s.disable ch else s

/-- Clocks the length of one channel, if it counts and has not run out. -/
def clockLength (ch : Channel) (s : Sound) : Sound :=
  if s.lengthEnabled ch && s.length ch != 0 then s.shorten ch else s

/-- Clocks the lengths of all channels. -/
def clockLengths (s : Sound) : Sound :=
  ((s.clockLength .one).clockLength .two).clockLength .three |>.clockLength .four

/-- Clocks the envelope of one channel, if it plays. -/
def clockEnvelope (ch : Channel) (s : Sound) : Sound :=
  if s.channelOn ch then s.setEnvelope ch ((s.envelope ch).clock (s.reg (converterReg ch))) else s

/-- Clocks the envelopes of the channels that have one. -/
def clockEnvelopes (s : Sound) : Sound :=
  ((s.clockEnvelope .one).clockEnvelope .two).clockEnvelope .four

/-- The frequency that the sweep would go to. -/
def sweepTarget (s : Sound) : UInt16 :=
  let delta := s.sweep.shadow >>> s.sweepShift.toUInt16
  if s.sweepNegative then s.sweep.shadow - delta else s.sweep.shadow + delta

/-- Whether the sweep would leave the range of frequencies. -/
def sweepOverflows (s : Sound) : Bool :=
  2047 < s.sweepTarget

/-- Moves channel 1 to the sweep's target, and stops it if a further move would overflow. -/
def commitSweep (s : Sound) : Sound :=
  let target := s.sweepTarget
  let s := setFrequency1 { s with sweep := { s.sweep with shadow := target } } target
  if s.sweepOverflows then s.disable .one else s

/-- What the sweep does when its timer has run out. -/
def runSweep (s : Sound) : Sound :=
  let s := { s with sweep := { s.sweep with timer := periodOf s.sweepPeriod } }
  if s.sweepPeriod == 0 then s
  else if s.sweepOverflows then s.disable .one
  else if s.sweepShift != 0 then s.commitSweep
  else s

/-- Clocks the sweep of channel 1. -/
def clockSweep (s : Sound) : Sound :=
  if !s.sweep.enabled || !s.channelOn .one then s
  else if 1 < s.sweep.timer then
    { s with sweep := { s.sweep with timer := s.sweep.timer - 1 } }
  else s.runSweep

/-- What the present step clocks. -/
def clockStep (s : Sound) : Sound :=
  if s.sequencer == 0 || s.sequencer == 4 then s.clockLengths
  else if s.sequencer == 2 || s.sequencer == 6 then s.clockLengths.clockSweep
  else if s.sequencer == 7 then s.clockEnvelopes
  else s

/-- One step of the sequencer. -/
def stepSequencer (s : Sound) : Sound :=
  if s.enabled then
    let s := s.clockStep
    { s with sequencer := (s.sequencer + 1) &&& 7 }
  else s

/-- The given number of steps of the sequencer. -/
def stepSequencerMany : Nat → Sound → Sound
  | 0, s => s
  | n + 1, s => stepSequencerMany n s.stepSequencer

end Sound

end DotMatrix
