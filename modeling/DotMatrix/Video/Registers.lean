import DotMatrix.Video.Timeline

/-!
# Picture registers on the bus

Reads and writes of `FF40` to `FF4B` and of the registers of the colour hardware. Writing LCDC
switches the screen; writing STAT or LYC looks at the STAT line again; writing a palette marks its
resolved colours as out of date.
-/

namespace DotMatrix

namespace Video

/-- The byte of STAT as the processor reads it. -/
def readStat (v : Video) : UInt8 :=
  let mode := if v.lcdOn then v.mode else hblankMode
  0x80 ||| (v.stat &&& 0x78) ||| (if v.coincidence then 0x04 else 0) ||| mode

/-- The byte of colour memory that an index register points at. -/
def colourByte (memory : Vector UInt8 0x40) (index : UInt8) : UInt8 :=
  memory.toArray.getD (index &&& 0x3F).toNat 0xFF

/-- The byte at a register of the colour hardware. -/
def readColourReg (v : Video) (addr : UInt16) : UInt8 :=
  match addr with
  | 0xFF4F => 0xFE ||| v.vbk
  | 0xFF55 => v.transfer.status
  | 0xFF68 => v.bcps ||| 0x40
  | 0xFF69 => colourByte v.bgColours v.bcps
  | 0xFF6A => v.ocps ||| 0x40
  | 0xFF6B => colourByte v.objColours v.ocps
  | 0xFF6C => v.opri ||| 0xFE
  | _ => 0xFF

/-- The byte at a picture register, `0xFF` elsewhere. -/
def read (v : Video) (addr : UInt16) : UInt8 :=
  match addr with
  | 0xFF40 => v.lcdc
  | 0xFF41 => v.readStat
  | 0xFF42 => v.scy
  | 0xFF43 => v.scx
  | 0xFF44 => v.ly
  | 0xFF45 => v.lyc
  | 0xFF46 => v.dma
  | 0xFF47 => v.bgp
  | 0xFF48 => v.obp0
  | 0xFF49 => v.obp1
  | 0xFF4A => v.wy
  | 0xFF4B => v.wx
  | _ => if v.isColour then v.readColourReg addr else 0xFF

/-- An index register after an access that moves it on, if it is set to move. -/
def nextIndex (index : UInt8) : UInt8 :=
  if hasBit index 0x80 then ((index + 1) &&& 0x3F) ||| 0x80 else index

/-- Writes colour memory of the background through its index register. -/
def writeBackgroundColour (v : Video) (val : UInt8) : Video :=
  { v with
    bgColours := v.bgColours.setIfInBounds (v.bcps &&& 0x3F).toNat val
    bcps := nextIndex v.bcps
    cache := { v.cache with stale := { v.cache.stale with background := true } } }

/-- Writes colour memory of the objects through its index register. -/
def writeObjectColour (v : Video) (val : UInt8) : Video :=
  { v with
    objColours := v.objColours.setIfInBounds (v.ocps &&& 0x3F).toNat val
    ocps := nextIndex v.ocps
    cache := { v.cache with stale := { v.cache.stale with objects := true } } }

/-- A write to a register of the colour hardware that needs no access to the bus. -/
def writeColourReg (v : Video) (addr : UInt16) (val : UInt8) : Video :=
  match addr with
  | 0xFF4F => { v with vbk := val &&& 0x01 }
  | 0xFF51 => { v with transfer := { v.transfer with sourceHigh := val } }
  | 0xFF52 => { v with transfer := { v.transfer with sourceLow := val } }
  | 0xFF53 => { v with transfer := { v.transfer with targetHigh := val } }
  | 0xFF54 => { v with transfer := { v.transfer with targetLow := val } }
  | 0xFF68 => { v with bcps := val &&& 0xBF }
  | 0xFF69 => v.writeBackgroundColour val
  | 0xFF6A => { v with ocps := val &&& 0xBF }
  | 0xFF6B => v.writeObjectColour val
  | 0xFF6C => { v with opri := val &&& 0x01 }
  | _ => v

/-- The screen goes off: the frame stops at its top. -/
def switchOff (v : Video) : Video :=
  { v with ly := 0, mode := hblankMode, nextCycles := 0, windowLine := 0, statLine := false }

/-- The screen goes on, at the top of a frame. -/
def switchOn (v : Video) : Video :=
  compareLine { v with ly := 0, windowLine := 0, mode := scanMode, nextCycles := 80 }

/-- Whether writing `val` to LCDC switches the screen off anywhere but below the visible lines,
which can damage a real screen. -/
def offOutsideVblank (v : Video) (addr : UInt16) (val : UInt8) : Bool :=
  addr == 0xFF40 && v.lcdOn && !hasBit val 0x80 && v.mode != vblankMode

/-- Marks the colours of BGP as out of date. -/
def writeBgp (v : Video) (val : UInt8) : Video :=
  { v with
    bgp := val
    cache := { v.cache with stale := { v.cache.stale with bgp := true } } }

/-- Marks the colours of OBP0 as out of date. -/
def writeObp0 (v : Video) (val : UInt8) : Video :=
  { v with
    obp0 := val
    cache := { v.cache with stale := { v.cache.stale with obp0 := true } } }

/-- Marks the colours of OBP1 as out of date. -/
def writeObp1 (v : Video) (val : UInt8) : Video :=
  { v with
    obp1 := val
    cache := { v.cache with stale := { v.cache.stale with obp1 := true } } }

namespace Run

/-- Writes LCDC. -/
def writeLcdc (r : Run) (val : UInt8) : Run :=
  let wasOn := r.video.lcdOn
  let r := r.update fun v => { v with lcdc := val }
  if wasOn && !r.video.lcdOn then r.update switchOff
  else if !wasOn && r.video.lcdOn then (r.update switchOn).updateStat
  else r

/-- Writes STAT. -/
def writeStat (r : Run) (val : UInt8) : Run :=
  (r.update fun v => compareLine { v with stat := val &&& 0x78 }).updateStat

/-- Writes LYC. -/
def writeLyc (r : Run) (val : UInt8) : Run :=
  (r.update fun v => compareLine { v with lyc := val }).updateStat

/-- A write to a picture register that needs no access to the bus; others are ignored. -/
def write (r : Run) (addr : UInt16) (val : UInt8) : Run :=
  match addr with
  | 0xFF40 => r.writeLcdc val
  | 0xFF41 => r.writeStat val
  | 0xFF42 => r.update fun v => { v with scy := val }
  | 0xFF43 => r.update fun v => { v with scx := val }
  | 0xFF44 => r
  | 0xFF45 => r.writeLyc val
  | 0xFF47 => r.update fun v => v.writeBgp val
  | 0xFF48 => r.update fun v => v.writeObp0 val
  | 0xFF49 => r.update fun v => v.writeObp1 val
  | 0xFF4A => r.update fun v => { v with wy := val }
  | 0xFF4B => r.update fun v => { v with wx := val }
  | _ => r.update fun v => if v.isColour then v.writeColourReg addr val else v

end Run

end Video

end DotMatrix
