import DotMatrix.Interrupt
import DotMatrix.Word

/-!
# The link port

SB holds a byte to exchange and SC starts the exchange. A transfer on the internal clock ends at
once: the cable's other end answers, the answer replaces SB, and the serial interrupt is
requested. With no cable the line is idle and the answer is `0xFF`. A transfer on the external
clock waits for ever.
-/

namespace DotMatrix

/-- A cable with a partner at its other end. The partner's answer to a byte may depend on all the
bytes that were sent before it. -/
structure Cable where
  answer : Array UInt8 → UInt8 → UInt8
  sent : Array UInt8 := #[]

namespace Cable

/-- A cable whose line stays idle: every answer is `0xFF`. -/
def idle : Cable := { answer := fun _ _ => 0xFF }

/-- A cable that returns every byte to its sender. -/
def loopback : Cable := { answer := fun _ b => b }

/-- A partner that answers with the given bytes in turn, and then leaves the line idle. -/
def scripted (replies : Array UInt8) : Cable :=
  { answer := fun sent _ => replies.getD sent.size 0xFF }

/-- The answer to the byte `b`, and the cable that has carried it. -/
def exchange (c : Cable) (b : UInt8) : UInt8 × Cable :=
  (c.answer c.sent b, { c with sent := c.sent.push b })

end Cable

/-- The data and control registers, and the cable that is plugged in. -/
structure Link where
  sb : UInt8 := 0
  sc : UInt8 := 0
  cable : Option Cable := none

namespace Link

/-- The byte at a link address, `0xFF` elsewhere. -/
def read (l : Link) (addr : UInt16) : UInt8 :=
  match addr with
  | 0xFF01 => l.sb
  | 0xFF02 => l.sc ||| 0x7E
  | _ => 0xFF

/-- Whether writing `val` to the control register starts a transfer on the internal clock. -/
def starts (val : UInt8) : Bool :=
  val &&& 0x81 == 0x81

/-- Exchanges SB with the partner; the start bit is clear again afterwards. -/
def transfer (l : Link) : Link :=
  match l.cable with
  | none => { l with sb := 0xFF, sc := 0x01 }
  | some cable =>
    let (answer, cable) := cable.exchange l.sb
    { sb := answer, sc := 0x01, cable := some cable }

/-- A write to a link address; others are ignored. -/
def write (l : Link) (addr : UInt16) (val : UInt8) : Link :=
  match addr with
  | 0xFF01 => { l with sb := val }
  | 0xFF02 => if starts val then l.transfer else { l with sc := val &&& 0x81 }
  | _ => l

/-- The request byte after the write: a completed transfer requests the serial interrupt. -/
def requestsAfter (addr : UInt16) (val : UInt8) (requests : UInt8) : UInt8 :=
  if addr == 0xFF02 && starts val then Interrupt.serial.raise requests else requests

end Link

end DotMatrix
