import DotMatrix.Interrupt
import DotMatrix.Video.Colour
import DotMatrix.Video.Palette
import DotMatrix.Video.PixelBuffer
import DotMatrix.Word

/-!
# The picture unit

Video memory, object memory, the registers `FF40` to `FF4B` and those of the colour hardware, the
place in the frame, and the host's side: a picture to draw into, a tint, and the host colours that
are already resolved. Here are the type, the states it starts from and its memories.
-/

namespace DotMatrix

/-- Which resolved colours are out of date. -/
structure Stale where
  shades : Bool := true
  bgp : Bool := true
  obp0 : Bool := true
  obp1 : Bool := true
  background : Bool := true
  objects : Bool := true
  deriving DecidableEq, Repr, Inhabited

/-- Whether anything is out of date. -/
def Stale.any (s : Stale) : Bool :=
  s.shades || s.bgp || s.obp0 || s.obp1 || s.background || s.objects

/-- Nothing is out of date. -/
def Stale.none : Stale := ⟨false, false, false, false, false, false⟩

/-- The host colours of the palettes. The colour palettes hold eight groups of four. -/
structure ColourCache where
  bgShades : Vector UInt32 4 := Vector.replicate 4 0
  obj0Shades : Vector UInt32 4 := Vector.replicate 4 0
  obj1Shades : Vector UInt32 4 := Vector.replicate 4 0
  bgp : Vector UInt32 4 := Vector.replicate 4 0
  obp0 : Vector UInt32 4 := Vector.replicate 4 0
  obp1 : Vector UInt32 4 := Vector.replicate 4 0
  background : Vector UInt32 32 := Vector.replicate 32 0
  objects : Vector UInt32 32 := Vector.replicate 32 0
  stale : Stale := {}
  deriving DecidableEq, Repr, Inhabited

/-- The block transfer registers as written, and the transfer that runs with the lines: its next
addresses, the bytes left (0 when idle), and the status byte that FF55 shows. -/
structure BlockTransfer where
  sourceHigh : UInt8 := 0
  sourceLow : UInt8 := 0
  targetHigh : UInt8 := 0
  targetLow : UInt8 := 0
  source : UInt16 := 0
  target : UInt16 := 0
  length : UInt16 := 0
  status : UInt8 := 0
  deriving DecidableEq, Repr, Inhabited

namespace BlockTransfer

/-- The source address that the registers name, a multiple of 16. -/
def sourceRegister (t : BlockTransfer) : UInt16 :=
  word t.sourceHigh t.sourceLow &&& 0xFFF0

/-- The place in video memory that the registers name, a multiple of 16. -/
def targetRegister (t : BlockTransfer) : UInt16 :=
  word (t.targetHigh &&& 0x1F) (t.targetLow &&& 0xF0)

/-- Whether a transfer runs with the lines. -/
def active (t : BlockTransfer) : Bool :=
  t.length != 0

end BlockTransfer

/-- The state of the picture unit. -/
structure Video where
  vram : Array UInt8
  oam : Vector UInt8 0xA0
  vbk : UInt8
  model : Model
  lcdc : UInt8
  stat : UInt8
  scy : UInt8
  scx : UInt8
  ly : UInt8
  lyc : UInt8
  coincidence : Bool
  dma : UInt8
  bgp : UInt8
  obp0 : UInt8
  obp1 : UInt8
  wy : UInt8
  wx : UInt8
  windowLine : UInt8
  bcps : UInt8
  bgColours : Vector UInt8 0x40
  ocps : UInt8
  objColours : Vector UInt8 0x40
  opri : UInt8
  nextCycles : Int
  mode : UInt8
  statLine : Bool
  transfer : BlockTransfer
  palette : Palette
  layers : Layers
  screen : Option PixelBuffer
  tint : Option Tint
  cache : ColourCache

namespace Video

/-- Bytes in a bank of video memory. -/
def bankSize : Nat := 0x2000

/-- Bytes in the two banks of video memory. -/
def vramSize : Nat := 0x4000

/-- The number of the mode after a line is drawn. -/
def hblankMode : UInt8 := 0

/-- The number of the mode below the visible lines. -/
def vblankMode : UInt8 := 1

/-- The number of the mode in which objects are looked up. -/
def scanMode : UInt8 := 2

/-- The number of the mode in which a line is drawn. -/
def drawMode : UInt8 := 3

/-- The unit with all registers clear and the screen off. -/
def unpowered (model : Model) : Video :=
  { vram := Array.replicate vramSize 0
    oam := Vector.replicate 0xA0 0
    vbk := 0
    model := model
    lcdc := 0
    stat := 0
    scy := 0
    scx := 0
    ly := 0
    lyc := 0
    coincidence := false
    dma := 0xFF
    bgp := 0
    obp0 := 0
    obp1 := 0
    wy := 0
    wx := 0
    windowLine := 0
    bcps := 0
    bgColours := Vector.replicate 0x40 0
    ocps := 0
    objColours := Vector.replicate 0x40 0
    opri := 0
    nextCycles := 0
    mode := hblankMode
    statLine := false
    transfer := {}
    palette := {}
    layers := {}
    screen := none
    tint := none
    cache := {} }

instance : Inhabited Video := ⟨unpowered .dmg⟩

/-- Marks every resolved colour as out of date. -/
def spoilColours (v : Video) : Video :=
  { v with cache := { v.cache with stale := {} } }

/-- The registers that the boot program leaves behind: the screen is on, at the top of a frame. -/
def boot (v : Video) : Video :=
  spoilColours { v with
    lcdc := 0x91
    stat := 0
    scy := 0
    scx := 0
    ly := 0
    lyc := 0
    bgp := 0xFC
    obp0 := 0xFF
    obp1 := 0xFF
    wy := 0
    wx := 0
    windowLine := 0
    mode := scanMode
    nextCycles := 80
    coincidence := true
    statLine := false }

/-- Whether the screen is on. -/
def lcdOn (v : Video) : Bool :=
  hasBit v.lcdc 0x80

/-- Whether the colour hardware is present. -/
def isColour (v : Video) : Bool :=
  v.model.isColour

/-! ## The host's side -/

/-- The host chooses its shades. -/
def setPalette (v : Video) (palette : Palette) : Video :=
  spoilColours { v with palette := palette }

/-- The host chooses its layers. -/
def setLayers (v : Video) (layers : Layers) : Video :=
  { v with layers := layers }

/-- The host attaches a picture. -/
def setScreen (v : Video) (screen : Option PixelBuffer) : Video :=
  spoilColours { v with screen := screen }

/-- The host takes its picture back. -/
def takeScreen (v : Video) : Video :=
  { v with screen := none }

/-- The host brings a tint, or takes it away. -/
def setTint (v : Video) (tint : Option Tint) : Video :=
  spoilColours { v with tint := tint }

/-- The host takes the conversions that its tint has been asked for. -/
def takeCalls (v : Video) : Array ColourCall × Video :=
  (v.tint.elim #[] Tint.calls, { v with tint := v.tint.map fun t => { t with calls := #[] } })

/-- Takes over the host's side of `old`. -/
def adoptHost (v old : Video) : Video :=
  spoilColours { v with screen := old.screen, tint := old.tint }

/-! ## Memories -/

/-- The place of a video memory address in the memory of both banks. -/
def vramIndex (bank : Nat) (addr : UInt16) : Nat :=
  bank * bankSize + (addr &&& 0x1FFF).toNat

/-- The byte of video memory at a place. -/
def vramAt (v : Video) (i : Nat) : UInt8 :=
  v.vram.getD i 0xFF

/-- Sets the byte of video memory at a place. -/
def setVramAt (v : Video) (i : Nat) (val : UInt8) : Video :=
  { v with vram := v.vram.setIfInBounds i val }

/-- The byte of object memory at a place. -/
def oamAt (v : Video) (i : Nat) : UInt8 :=
  v.oam.toArray.getD i 0xFF

/-- Sets the byte of object memory at a place. -/
def setOamAt (v : Video) (i : Nat) (val : UInt8) : Video :=
  { v with oam := v.oam.setIfInBounds i val }

/-- The two bytes of object memory from `i` on, low byte first. -/
def oamWord (v : Video) (i : Nat) : UInt16 :=
  word (v.oamAt (i + 1)) (v.oamAt i)

/-- The row of object memory that is being looked up: eight bytes every four cycles. -/
def scanRow (v : Video) : Nat :=
  (min (max (80 - v.nextCycles) 0) 79).toNat / 4

/-- Object memory with row `row` spoiled by an access during the look-up: its first word mixes with
the row before, and the rest is the row before. -/
def spoiledOam (v : Video) (row : Nat) : Vector UInt8 0xA0 :=
  let here := row * 8
  let a := v.oamWord here
  let b := v.oamWord (here - 8)
  let c := v.oamWord (here - 4)
  let mixed := ((a ^^^ c) &&& (b ^^^ c)) ^^^ c
  Vector.ofFn fun i =>
    if i.val = here then lowByte mixed
    else if i.val = here + 1 then highByte mixed
    else if here + 2 ≤ i.val && i.val < here + 8 then v.oamAt (i.val - 8)
    else v.oam[i]

/-- The fault of the early models: counting an address of object memory up or down while objects are
looked up spoils the row in use, except the first. -/
def spoilOam (v : Video) : Video :=
  if v.isColour || !v.lcdOn || v.mode != scanMode || v.scanRow = 0 then v
  else { v with oam := v.spoiledOam v.scanRow }

end Video

end DotMatrix
