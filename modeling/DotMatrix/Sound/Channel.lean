import DotMatrix.Sound.Envelope

/-!
# Sound channels

Two pulse channels, the first with a frequency sweep, a channel that plays the wave memory, and a
noise channel driven by a shift register. Each steps whenever its countdown runs out; `reloads`
says how often that happens when several periods pass at once.
-/

namespace DotMatrix

/-- How often a countdown at `t` is reloaded with `period` until it is positive again. -/
def reloads (t period : Int) : Nat :=
  if 0 < t then 0 else (-t / period).toNat + 1

/-- The four channels. -/
inductive Channel
  | one
  | two
  | three
  | four
  deriving DecidableEq, Repr

namespace Channel

/-- The bit of the channel in the status register NR52. -/
def mask : Channel → UInt8
  | one => 0x01
  | two => 0x02
  | three => 0x04
  | four => 0x08

/-- The longest length of the channel. -/
def maxLength : Channel → UInt16
  | three => 256
  | _ => 64

end Channel

/-- A pulse channel: the countdown, the place in the duty cycle, the length left, the envelope. -/
structure Pulse where
  timer : Int := 0
  duty : UInt8 := 0
  length : UInt16 := 0
  envelope : Envelope := {}
  deriving DecidableEq, Repr, Inhabited

/-- `cycles` pass for a pulse channel with the given period. -/
def Pulse.step (c : Pulse) (cycles : Nat) (period : Int) : Pulse :=
  let t := c.timer - signedCount cycles
  if 0 < t then { c with timer := t }
  else
    let k := reloads t period
    { c with timer := t + k * period, duty := ((c.duty.toNat + k) % 8).toUInt8 }

/-- The frequency sweep of the first channel. -/
structure Sweep where
  timer : UInt8 := 0
  shadow : UInt16 := 0
  enabled : Bool := false
  deriving DecidableEq, Repr, Inhabited

/-- The wave channel. `window` counts the cycles in which the processor can reach the byte that is
being played. -/
structure Wave where
  timer : Int := 0
  length : UInt16 := 0
  position : UInt8 := 0
  buffer : UInt8 := 0
  window : Nat := 0
  deriving DecidableEq, Repr, Inhabited

/-- The noise channel with its shift register. -/
structure Noise where
  timer : Int := 0
  length : UInt16 := 0
  envelope : Envelope := {}
  lfsr : UInt16 := 0
  deriving DecidableEq, Repr, Inhabited

namespace Noise

/-- One shift: the two lowest bits are combined and come in at the top, and in the narrow form at
bit 6 too. -/
def shift (narrow : Bool) (lfsr : UInt16) : UInt16 :=
  let bit : UInt16 := (lfsr ^^^ (lfsr >>> 1)) &&& 1
  let next : UInt16 := (lfsr >>> 1) ||| (bit <<< 14)
  if narrow then (next &&& (0xFFBF : UInt16)) ||| (bit <<< 6) else next

/-- The given number of shifts. -/
def shiftMany (narrow : Bool) : Nat → UInt16 → UInt16
  | 0, lfsr => lfsr
  | n + 1, lfsr => shiftMany narrow n (shift narrow lfsr)

/-- `cycles` pass for the noise channel with the given period. -/
def step (c : Noise) (cycles : Nat) (period : Int) (narrow : Bool) : Noise :=
  let t := c.timer - signedCount cycles
  if 0 < t then { c with timer := t }
  else
    let k := reloads t period
    { c with timer := t + k * period, lfsr := shiftMany narrow k c.lfsr }

end Noise

end DotMatrix
