import DotMatrix.Bus.Transfer

/-!
# Reading and writing the bus

`read` has no effect. `write` goes to the bank registers below `8000`, to memory, or to a device
register; video memory and object memory cannot be written while the picture unit uses them.
-/

namespace DotMatrix

namespace Bus

/-! ## Reading -/

/-- The byte at a register that only colour models have. -/
def readColourIo (b : Bus) (addr : UInt16) : UInt8 :=
  if addr == 0xFF4D then 0x7E ||| b.key1
  else if addr == 0xFF4F || addr == 0xFF55 || (0xFF68 ≤ addr && addr ≤ 0xFF6C) then
    b.video.read addr
  else if addr == 0xFF70 then 0xF8 ||| b.svbk
  else if 0xFF72 ≤ addr && addr ≤ 0xFF74 then
    b.undocumented.toArray.getD (addr - 0xFF72).toNat 0xFF
  else if addr == 0xFF75 then (0x8F : UInt8) ||| b.undocumented.toArray.getD 3 0
  else 0xFF

/-- The byte at a register. -/
def readIo (b : Bus) (addr : UInt16) : UInt8 :=
  if addr == 0xFF00 then b.joypad.read
  else if addr == 0xFF01 || addr == 0xFF02 then b.link.read addr
  else if 0xFF04 ≤ addr && addr ≤ 0xFF07 then b.timer.read addr
  else if addr == 0xFF0F then b.requests ||| 0xE0
  else if 0xFF10 ≤ addr && addr ≤ 0xFF3F then b.sound.read addr
  else if 0xFF40 ≤ addr && addr ≤ 0xFF4B then b.video.read addr
  else if b.isColour then b.readColourIo addr
  else 0xFF

/-- The byte at an address. -/
def read (b : Bus) (addr : UInt16) : UInt8 :=
  if addr < 0xFE00 then b.readSlot addr
  else if addr < 0xFEA0 then b.video.oamAt (addr - 0xFE00).toNat
  else if addr < 0xFF00 then 0xFF
  else if addr < 0xFF80 then b.readIo addr
  else if addr < 0xFFFF then b.hram.toArray.getD (addr - 0xFF80).toNat 0xFF
  else b.enables

/-! ## Writing -/

/-- Passes sequencer edges of the divider on to the sound unit. -/
def clockSound (b : Bus) (edges : Nat) : Bus :=
  if edges = 0 then b else { b with sound := b.sound.stepSequencerMany edges }

/-- Takes over what a timer operation leaves. -/
def afterTimer (b : Bus) (r : Timer.Run) : Bus :=
  clockSound { b with timer := r.timer, requests := r.requests } r.edges

/-- Writes a timer register. -/
def writeTimer (b : Bus) (addr : UInt16) (val : UInt8) : Bus :=
  b.afterTimer ((b.timer.withRequests b.requests).write b.doubleSpeed addr val)

/-- Writes a link register. -/
def writeLink (b : Bus) (addr : UInt16) (val : UInt8) : Bus :=
  { b with
    link := b.link.write addr val
    requests := Link.requestsAfter addr val b.requests }

/-- Writes a picture register. -/
def writeVideo (b : Bus) (addr : UInt16) (val : UInt8) : Bus :=
  let r := (b.video.withRequests b.requests).write addr val
  { b with video := r.video, requests := r.requests }

/-- Writes LCDC, with a notice when the screen goes off where it should not. -/
def writeLcdc (b : Bus) (val : UInt8) : Bus :=
  if b.video.offOutsideVblank 0xFF40 val then
    let mode := b.video.mode
    (b.report (.lcdDisabled mode)).writeVideo 0xFF40 val
  else b.writeVideo 0xFF40 val

/-- Writes the bank register of work memory; bank 0 cannot be selected. -/
def writeSvbk (b : Bus) (val : UInt8) : Bus :=
  remap { b with svbk := if val &&& 0x07 == 0 then 1 else val &&& 0x07 }

/-- Writes a register that only colour models have. -/
def writeColourIo (b : Bus) (addr : UInt16) (val : UInt8) : Bus :=
  if addr == 0xFF4D then { b with key1 := (b.key1 &&& 0x80) ||| (val &&& 0x01) }
  else if addr == 0xFF4F then (b.writeVideo addr val).remap
  else if (0xFF51 ≤ addr && addr ≤ 0xFF54) || (0xFF68 ≤ addr && addr ≤ 0xFF6C) then
    b.writeVideo addr val
  else if addr == 0xFF55 then b.writeTransfer val
  else if addr == 0xFF70 then b.writeSvbk val
  else if 0xFF72 ≤ addr && addr ≤ 0xFF74 then
    { b with undocumented := b.undocumented.setIfInBounds (addr - 0xFF72).toNat val }
  else if addr == 0xFF75 then
    { b with undocumented := b.undocumented.setIfInBounds 3 (val &&& 0x70) }
  else b

/-- Writes a register. -/
def writeIo (b : Bus) (addr : UInt16) (val : UInt8) : Bus :=
  if addr == 0xFF00 then { b with joypad := b.joypad.write val }
  else if addr == 0xFF01 || addr == 0xFF02 then b.writeLink addr val
  else if 0xFF04 ≤ addr && addr ≤ 0xFF07 then b.writeTimer addr val
  else if addr == 0xFF0F then { b with requests := val &&& 0x1F }
  else if 0xFF10 ≤ addr && addr ≤ 0xFF3F then { b with sound := b.sound.write addr val }
  else if addr == 0xFF40 then b.writeLcdc val
  else if addr == 0xFF46 then b.fillObjects val
  else if 0xFF40 ≤ addr && addr ≤ 0xFF4B then b.writeVideo addr val
  else if b.isColour then b.writeColourIo addr val
  else b

/-- Writes a bank register of the cartridge. -/
def writeControl (b : Bus) (addr : UInt16) (val : UInt8) : Bus :=
  if b.cart.isSome then
    remap { b with cart := b.cart.map fun c => c.writeControl addr val }
  else b

/-- Whether the picture unit keeps the processor from video memory. -/
def vramBlocked (b : Bus) : Bool :=
  b.video.lcdOn && b.video.mode == Video.drawMode

/-- Whether the picture unit keeps the processor from object memory. -/
def oamBlocked (b : Bus) : Bool :=
  b.video.lcdOn && (b.video.mode == Video.scanMode || b.video.mode == Video.drawMode)

/-- Writes video memory. -/
def writeVram (b : Bus) (addr : UInt16) (val : UInt8) : Bus :=
  if b.vramBlocked then b
  else
    let place := (b.slotAt addr).offset addr
    { b with video := b.video.setVramAt place val }

/-- Writes whatever the cartridge shows at `A000` to `BFFF`. -/
def writeCartRam (b : Bus) (addr : UInt16) (val : UInt8) : Bus :=
  { b with cart := b.cart.map fun c => c.writeRam addr val }

/-- Writes work memory. -/
def writeWram (b : Bus) (addr : UInt16) (val : UInt8) : Bus :=
  let place := (b.slotAt addr).offset addr
  { b with wram := b.wram.setIfInBounds place val }

/-- Writes object memory. -/
def writeOam (b : Bus) (addr : UInt16) (val : UInt8) : Bus :=
  if b.oamBlocked then b else { b with video := b.video.setOamAt (addr - 0xFE00).toNat val }

/-- Writes a byte. -/
def write (b : Bus) (addr : UInt16) (val : UInt8) : Bus :=
  if addr < 0x8000 then b.writeControl addr val
  else if addr < 0xA000 then b.writeVram addr val
  else if addr < 0xC000 then b.writeCartRam addr val
  else if addr < 0xFE00 then b.writeWram addr val
  else if addr < 0xFEA0 then b.writeOam addr val
  else if addr < 0xFF00 then b
  else if addr < 0xFF80 then b.writeIo addr val
  else if addr < 0xFFFF then { b with hram := b.hram.setIfInBounds (addr - 0xFF80).toNat val }
  else { b with enables := val }

/-- Presses or releases the buttons of `mask`. -/
def setButtons (b : Bus) (mask : UInt8) (down : Bool) : Bus :=
  let joypad := b.joypad.setButtons mask down
  let requests := Joypad.requestsAfter b.joypad joypad b.requests
  { b with joypad := joypad, requests := requests }

end Bus

end DotMatrix
