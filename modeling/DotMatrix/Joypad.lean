import DotMatrix.Interrupt
import DotMatrix.Word

/-!
# The joypad

Eight buttons in two groups of four share the lower half of one register. A pressed button reads
as 0. Bits 4 and 5 of the register choose the group that is read: bit 5 low chooses the action
buttons, otherwise the directions are read. A readable line that goes from 1 to 0 requests the
joypad interrupt.
-/

namespace DotMatrix

/-- The buttons, one bit each and low when pressed, and the group selection as last written. -/
structure Joypad where
  released : UInt8 := 0xFF
  select : UInt8 := 0x30
  deriving DecidableEq, Repr, Inhabited

namespace Joypad

/-- The four lines of the selected group. -/
def lines (j : Joypad) : UInt8 :=
  if hasBit j.select 0x20 then j.released >>> 4 else j.released &&& 0x0F

/-- The register as the processor reads it. -/
def read (j : Joypad) : UInt8 :=
  0xC0 ||| j.select ||| (j.lines &&& 0x0F)

/-- Chooses the group. -/
def write (j : Joypad) (val : UInt8) : Joypad :=
  { j with select := val &&& 0x30 }

/-- Whether every button of `mask` is pressed. -/
def isDown (j : Joypad) (mask : UInt8) : Bool :=
  j.released &&& mask == 0

/-- The directions opposite to those of `mask`: right and left, up and down. -/
def opposites (mask : UInt8) : UInt8 :=
  ((mask &&& 0x10) <<< 1) ||| ((mask &&& 0x20) >>> 1) |||
    ((mask &&& 0x40) <<< 1) ||| ((mask &&& 0x80) >>> 1)

/-- Presses or releases the buttons of `mask`; a direction that is pressed releases its opposite. -/
def setButtons (j : Joypad) (mask : UInt8) (down : Bool) : Joypad :=
  if down then { j with released := (j.released &&& ~~~mask) ||| opposites mask }
  else { j with released := j.released ||| mask }

/-- The request byte after the lines went from those of `before` to those of `after`. -/
def requestsAfter (before after : Joypad) (requests : UInt8) : UInt8 :=
  if hasBit (before.read &&& 0x0F) (~~~(after.read &&& 0x0F)) then
    Interrupt.joypad.raise requests
  else requests

end Joypad

end DotMatrix
