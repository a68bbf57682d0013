import DotMatrix.Sound.Sequencer

/-!
# Triggers

Writing NRx4 with bit 7 starts a note: the channel goes on, an exhausted length is reloaded, and
the countdown, envelope, sweep, wave position and shift register start afresh. A channel whose
converter is off, or whose sweep overflows at once, goes off again.
-/

namespace DotMatrix

namespace Sound

/-- The length that a trigger leaves: an exhausted one is reloaded, one lower when the length counts
and the coming step would not clock it. -/
def reloadedLength (s : Sound) (ch : Channel) : UInt16 :=
  if s.length ch != 0 then s.length ch
  else if s.lengthEnabled ch && s.nextSkipsLength then ch.maxLength - 1
  else ch.maxLength

/-- What the trigger of every channel starts with. -/
def startNote (s : Sound) (ch : Channel) : Sound :=
  let s := s.enable ch
  let s := s.setLength ch (s.reloadedLength ch)
  s.setEnvelope ch (Envelope.trigger (s.reg (converterReg ch)) s.nextClocksVolume)

/-- What the trigger of every channel ends with: no note without a converter. -/
def checkConverter (s : Sound) (ch : Channel) : Sound :=
  if s.converterOn ch then s else s.disable ch

/-- The countdown of a pulse channel after a trigger: its two lowest bits survive. -/
def restartedTimer (timer period : Int) : Int :=
  timer % 4 + (period - period % 4)

/-- The start of the sweep. -/
def startSweep (s : Sound) : Sound :=
  let s := { s with
    sweep :=
      { timer := periodOf s.sweepPeriod
        shadow := s.frequency1
        enabled := s.sweepPeriod != 0 || s.sweepShift != 0 } }
  if s.sweepShift != 0 && s.sweepOverflows then s.disable .one else s

/-- Starts the channel. -/
def trigger (s : Sound) (ch : Channel) : Sound :=
  let s := s.startNote ch
  let s := match ch with
    | .one =>
      startSweep { s with
        ch1 := { s.ch1 with timer := restartedTimer s.ch1.timer (pulsePeriod s.frequency1) } }
    | .two =>
      { s with
        ch2 := { s.ch2 with timer := restartedTimer s.ch2.timer (pulsePeriod s.frequency2) } }
    | .three => { s with ch3 := { s.ch3 with position := 0, timer := s.wavePeriod } }
    | .four => { s with ch4 := { s.ch4 with lfsr := 0x7FFF, timer := s.noisePeriod } }
  s.checkConverter ch

/-- The extra clock of a length: enabling the length when the coming step would not clock it does so
at once, and stops the channel when nothing is left and no trigger follows. -/
def clockOnEnable (s : Sound) (ch : Channel) (val : UInt8) : Sound :=
  if hasBit val 0x40 && !s.lengthEnabled ch && s.nextSkipsLength && s.length ch != 0 then
    let left := s.length ch - 1
    let s := s.setLength ch left
    if left == 0 && !hasBit val 0x80 then s.disable ch else s
  else s

end Sound

end DotMatrix
