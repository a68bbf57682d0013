import DotMatrix.Interrupt
import DotMatrix.Word

/-!
# The divider and the timer

A 16-bit counter runs with the processor; its upper byte is the register DIV. TAC selects one of
its bits, and whenever that bit, gated by the enable bit, falls, TIMA counts up. When TIMA
overflows it is reloaded from TMA and the timer interrupt is requested. Bit 12 of the counter
(bit 13 in double speed) paces the sound sequencer: every fall of it is one edge.

A `Run` carries a timer together with the request byte it feeds and the edges so far, so that an
operation is one function from `Run` to `Run`.
-/

namespace DotMatrix

/-- The divider counter, the three timer registers, and the gated divider bit as last seen. -/
structure Timer where
  div : UInt16 := 0
  tima : UInt8 := 0
  tma : UInt8 := 0
  tac : UInt8 := 0
  lastSignal : Bool := false
  deriving DecidableEq, Repr, Inhabited

namespace Timer

/-- The divider bit that TAC selects. -/
def selectedBit (tac : UInt8) : UInt16 :=
  if tac &&& 0x03 == 0 then 0x0200
  else if tac &&& 0x03 == 1 then 0x0008
  else if tac &&& 0x03 == 2 then 0x0020
  else 0x0080

/-- The selected divider bit, gated by the enable bit of TAC. -/
def signalAt (div : UInt16) (tac : UInt8) : Bool :=
  hasBit tac 0x04 && (div &&& selectedBit tac != 0)

/-- The divider bit whose fall paces the sound sequencer. -/
def sequencerBit (doubleSpeed : Bool) : UInt16 :=
  if doubleSpeed then 0x2000 else 0x1000

/-- TIMA one higher, or reloaded from TMA past 255. -/
def countUp (t : Timer) : Timer :=
  if t.tima == 0xFF then { t with tima := t.tma } else { t with tima := t.tima + 1 }

/-- The byte at a timer address, `0xFF` elsewhere. -/
def read (t : Timer) (addr : UInt16) : UInt8 :=
  match addr with
  | 0xFF04 => highByte t.div
  | 0xFF05 => t.tima
  | 0xFF06 => t.tma
  | 0xFF07 => t.tac ||| 0xF8
  | _ => 0xFF

/-- A timer in use: the timer, the request byte it feeds, and the sequencer edges so far. -/
structure Run where
  timer : Timer
  requests : UInt8
  edges : Nat
  deriving DecidableEq, Repr, Inhabited

namespace Run

/-- Counts TIMA up once, requesting the interrupt when it overflows. -/
def count (r : Run) : Run :=
  if r.timer.tima == 0xFF then
    { r with timer := r.timer.countUp, requests := Interrupt.timer.raise r.requests }
  else
    { r with timer := r.timer.countUp }

/-- One cycle of the divider. -/
def tick (doubleSpeed : Bool) (r : Run) : Run :=
  let bit := sequencerBit doubleSpeed
  let old := r.timer.div
  let new := old + 1
  let signal := signalAt new r.timer.tac
  let counts := r.timer.lastSignal && !signal
  let edges := if old &&& bit != 0 && new &&& bit == 0 then r.edges + 1 else r.edges
  let r := { r with timer := { r.timer with div := new, lastSignal := signal }, edges := edges }
  if counts then r.count else r

/-- The given number of cycles of the divider. -/
def step (doubleSpeed : Bool) : Nat → Run → Run
  | 0, r => r
  | n + 1, r => step doubleSpeed n (r.tick doubleSpeed)

/-- Clears the divider. A selected bit that was high falls and counts, and so does a sequencer
bit. -/
def resetDiv (doubleSpeed : Bool) (r : Run) : Run :=
  let fell := r.timer.div &&& sequencerBit doubleSpeed != 0
  let counts := signalAt r.timer.div r.timer.tac
  let r := if counts then r.count else r
  { r with
    timer := { r.timer with div := 0, lastSignal := false }
    edges := if fell then r.edges + 1 else r.edges }

/-- Writes TAC. A gated bit that falls with the change counts. -/
def writeControl (val : UInt8) (r : Run) : Run :=
  let before := signalAt r.timer.div r.timer.tac
  let tac := val &&& 0x07
  let after := signalAt r.timer.div tac
  let r := { r with timer := { r.timer with tac := tac } }
  let r := if before && !after then r.count else r
  { r with timer := { r.timer with lastSignal := after } }

/-- A write to a timer address; others are ignored. -/
def write (doubleSpeed : Bool) (addr : UInt16) (val : UInt8) (r : Run) : Run :=
  match addr with
  | 0xFF04 => r.resetDiv doubleSpeed
  | 0xFF05 => { r with timer := { r.timer with tima := val } }
  | 0xFF06 => { r with timer := { r.timer with tma := val } }
  | 0xFF07 => r.writeControl val
  | _ => r

end Run

/-- The timer about to be used, with no edges yet. -/
def withRequests (t : Timer) (requests : UInt8) : Run :=
  ⟨t, requests, 0⟩

end Timer

end DotMatrix
