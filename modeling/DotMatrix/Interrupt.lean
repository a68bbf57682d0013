/-!
# Interrupt requests

Five devices request interrupts through one bit each of the request byte (IF), enabled by the
same bit of the enable byte (IE). Lower bits go first: `first` picks the lowest bit of a pending
set, and every request has its own handler address, eight bytes after the one before it.
-/

namespace DotMatrix

/-- A source of interrupts. -/
inductive Interrupt
  | vblank
  | stat
  | timer
  | serial
  | joypad
  deriving DecidableEq, Repr

namespace Interrupt

/-- The bit of the source in IF and IE. -/
def mask : Interrupt → UInt8
  | vblank => 0x01
  | stat => 0x02
  | timer => 0x04
  | serial => 0x08
  | joypad => 0x10

/-- The address of the handler. -/
def vector : Interrupt → UInt16
  | vblank => 0x40
  | stat => 0x48
  | timer => 0x50
  | serial => 0x58
  | joypad => 0x60

/-- Adds the request of `i` to the request byte. -/
def raise (i : Interrupt) (requests : UInt8) : UInt8 :=
  requests ||| i.mask

/-- Takes the request of `i` out of the request byte. -/
def acknowledge (i : Interrupt) (requests : UInt8) : UInt8 :=
  requests &&& ~~~i.mask

/-- The requests that are enabled. -/
def pending (requests enables : UInt8) : UInt8 :=
  requests &&& enables &&& 0x1F

/-- The source that is served first when the set `p` is pending. -/
def first (p : UInt8) : Interrupt :=
  if p &&& 0x01 != 0 then vblank
  else if p &&& 0x02 != 0 then stat
  else if p &&& 0x04 != 0 then timer
  else if p &&& 0x08 != 0 then serial
  else joypad

end Interrupt

end DotMatrix
