import DotMatrix.Video.Object
import DotMatrix.Video.Resolve

/-!
# Drawing a line

A line starts as background and window, then objects are painted over it in order of priority: an
object never covers another, and yields to the background where it has to. The window has a line
counter of its own, which moves on after every line that shows the window.
-/

namespace DotMatrix

/-- A pixel of a line being drawn: its colour, what objects have to know of the background there,
and whether an object is there already. -/
structure Dot where
  colour : UInt32
  backgroundZero : Bool
  backgroundFirst : Bool
  taken : Bool
  deriving DecidableEq, Repr, Inhabited

namespace Video

/-- Whether background and window are drawn at all. -/
def backgroundOn (v : Video) : Bool :=
  v.isColour || hasBit v.lcdc 0x01

/-- Whether the window shows on the present line. -/
def windowVisible (v : Video) : Bool :=
  hasBit v.lcdc 0x20 && v.wx ≤ 166 && v.wy ≤ 143 && v.wy ≤ v.ly

/-- Whether the present line moves the window's line counter on. -/
def windowCounts (v : Video) : Bool :=
  v.backgroundOn && v.windowVisible

/-- The colour of a line where nothing is drawn. -/
def blankColour (v : Video) : UInt32 :=
  if v.isColour then v.cache.background.toArray.getD 0 0 else v.cache.bgShades.toArray.getD 0 0

/-- A pixel with nothing on it. -/
def blankDot (v : Video) : Dot :=
  { colour := v.blankColour, backgroundZero := true, backgroundFirst := false, taken := false }

/-- The host colour of a pixel of a plane. -/
def planeColour (v : Video) (p : TilePixel) : UInt32 :=
  if v.isColour then v.cache.background.toArray.getD (p.palette.toNat * 4 + p.colour.toNat) 0
  else v.cache.bgp.toArray.getD p.colour.toNat 0

/-- A pixel of a plane as a pixel of the line. -/
def planeDot (v : Video) (p : TilePixel) : Dot :=
  { colour := v.planeColour p
    backgroundZero := p.colour == 0
    backgroundFirst := p.priority
    taken := false }

/-- The pixel of the background plane at column `x` of the line. -/
def backgroundPixel (v : Video) (x : Nat) : TilePixel :=
  v.planePixel (mapBase (hasBit v.lcdc 0x08)) ((x + v.scx.toNat) % 256)
    ((v.ly.toNat + v.scy.toNat) % 256)

/-- The pixel of the window plane at column `x` of the line. -/
def windowPixel (v : Video) (x : Nat) : TilePixel :=
  v.planePixel (mapBase (hasBit v.lcdc 0x40)) (x + 7 - v.wx.toNat) v.windowLine.toNat

/-- The pixel at column `x` of the line, without objects. -/
def backgroundDot (v : Video) (x : Nat) : Dot :=
  if v.windowCounts && v.layers.win && v.wx.toNat ≤ x + 7 then v.planeDot (v.windowPixel x)
  else if v.backgroundOn && v.layers.bg then v.planeDot (v.backgroundPixel x)
  else v.blankDot

/-- The line without objects. -/
def backgroundLine (v : Video) : Array Dot :=
  Array.ofFn fun x : Fin 160 => v.backgroundDot x.val

/-- Whether an object yields to the background of a pixel. On colour models with LCDC bit 0 clear no
object does. -/
def yieldsTo (v : Video) (o : SpriteEntry) (d : Dot) : Bool :=
  (!v.isColour || hasBit v.lcdc 0x01) && !d.backgroundZero &&
    (v.isColour && d.backgroundFirst || hasBit o.flags 0x80)

/-- A pixel of the line after an object with the given colour number there. -/
def paintDot (v : Video) (o : SpriteEntry) (colour : UInt8) (d : Dot) : Dot :=
  if d.taken || colour == 0 || v.yieldsTo o d then d
  else { d with colour := v.objectHostColour o colour, taken := true }

/-- Paints column `px` of an object. -/
def paintColumn (v : Video) (o : SpriteEntry) (line : Array Dot) (px : Nat) : Array Dot :=
  let x := o.x + px
  if x < 0 then line else line.modify x.toNat (v.paintDot o (v.objectColour o px))

/-- Paints an object. -/
def paintObject (v : Video) (line : Array Dot) (o : SpriteEntry) : Array Dot :=
  (List.range 8).foldl (v.paintColumn o) line

/-- Whether objects are drawn. -/
def objectsOn (v : Video) : Bool :=
  hasBit v.lcdc 0x02 && v.layers.obj

/-- The line with everything on it. -/
def lineDots (v : Video) : Array Dot :=
  if v.objectsOn then v.lineObjects.foldl v.paintObject v.backgroundLine else v.backgroundLine

/-- The colours of the line. -/
def lineColours (v : Video) : Array UInt32 :=
  v.lineDots.map Dot.colour

/-- Draws the present line into the host's picture. -/
def paintLine (v : Video) : Video :=
  let colours := v.lineColours
  { v with screen := v.screen.map fun p => p.putRow v.ly.toNat colours }

/-- Moves the window's line counter on, if the present line shows the window. -/
def countWindow (v : Video) : Video :=
  if v.windowCounts then { v with windowLine := v.windowLine + 1 } else v

/-- The end of a line: it is drawn if there is a picture, and the window counts. -/
def renderLine (v : Video) : Video :=
  if v.screen.isSome && v.ly < 144 then v.refreshColours.paintLine.countWindow else v.countWindow

end Video

end DotMatrix
