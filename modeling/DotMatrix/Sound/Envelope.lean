import DotMatrix.Word

/-!
# Volume envelopes

An envelope moves a volume between 0 and 15, one step each time its timer runs out. The register
NRx2 holds the start volume, the direction and the period; a period of 0 never moves the volume.
-/

namespace DotMatrix

/-- The period that a three-bit field gives: 0 stands for 8. -/
def periodOf (field : UInt8) : UInt8 :=
  if field &&& 0x07 == 0 then 8 else field &&& 0x07

/-- A volume with its timer. Once `disabled`, it rests until the next trigger. -/
structure Envelope where
  volume : UInt8 := 0
  timer : UInt8 := 0
  disabled : Bool := false
  deriving DecidableEq, Repr, Inhabited

namespace Envelope

/-- The start of a note. When the next sequencer step clocks envelopes, that clock does not
count. -/
def trigger (nrx2 : UInt8) (nextIsVolume : Bool) : Envelope :=
  { volume := nrx2 >>> 4
    timer := periodOf nrx2 + (if nextIsVolume then 1 else 0)
    disabled := false }

/-- The volume moves one step in its direction, or rests for good at the end of its range. -/
def move (e : Envelope) (nrx2 : UInt8) : Envelope :=
  let next := if hasBit nrx2 0x08 then e.volume + 1 else e.volume - 1
  if next ≤ 15 then { e with volume := next } else { e with disabled := true }

/-- One clock of the envelope. -/
def clock (e : Envelope) (nrx2 : UInt8) : Envelope :=
  if e.disabled then e
  else if 1 < e.timer then { e with timer := e.timer - 1 }
  else
    let e := { e with timer := periodOf nrx2 }
    if nrx2 &&& 0x07 == 0 then { e with disabled := true } else e.move nrx2

/-- The volume after NRx2 changes from `old` to `new` while the channel plays. -/
def rewritten (e : Envelope) (old new : UInt8) : Envelope :=
  let bumped :=
    if old &&& 0x07 == 0 && !e.disabled then
      if hasBit old 0x08 then e.volume + 1 else e.volume + 2
    else e.volume
  let turned := if hasBit (old ^^^ new) 0x08 then 16 - bumped else bumped
  { e with volume := turned &&& 0x0F }

end Envelope

end DotMatrix
