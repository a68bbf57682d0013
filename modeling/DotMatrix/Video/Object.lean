import DotMatrix.Video.Tile

/-!
# Objects

Forty objects of eight by eight or eight by sixteen pixels live in object memory, four bytes each.
The first ten that cover a line are drawn on it; on monochrome models the leftmost of them come
first, on colour models those that stand first in memory.
-/

namespace DotMatrix

/-- An object: the place of its upper left pixel, its tile and its attributes. -/
structure SpriteEntry where
  x : Int
  y : Int
  tile : UInt8
  flags : UInt8
  deriving DecidableEq, Repr

namespace Video

/-- Objects in object memory. -/
def objectCount : Nat := 40

/-- The most objects on a line. -/
def objectsPerLine : Nat := 10

/-- The height of objects. -/
def objectHeight (v : Video) : Nat :=
  if hasBit v.lcdc 0x04 then 16 else 8

/-- Object `i` of object memory. -/
def objectAt (v : Video) (i : Nat) : SpriteEntry :=
  { x := (v.oamAt (4 * i + 1)).toNat - 8
    y := (v.oamAt (4 * i)).toNat - 16
    tile := v.oamAt (4 * i + 2)
    flags := v.oamAt (4 * i + 3) }

/-- Whether an object covers the present line. -/
def coversLine (v : Video) (o : SpriteEntry) : Bool :=
  o.y ≤ v.ly.toNat && v.ly.toNat < o.y + v.objectHeight

/-- The first objects in memory that cover the present line. -/
def scanObjects (v : Video) : List SpriteEntry :=
  (((List.range objectCount).map v.objectAt).filter v.coversLine).take objectsPerLine

/-- The objects of the present line, first in priority first. -/
def lineObjects (v : Video) : List SpriteEntry :=
  if v.isColour then v.scanObjects else v.scanObjects.mergeSort fun a b => a.x ≤ b.x

/-- The row of an object that the present line shows, after mirroring. -/
def objectRow (v : Video) (o : SpriteEntry) : Nat :=
  let row := (v.ly.toNat - o.y).toNat
  if hasBit o.flags 0x40 then v.objectHeight - 1 - row else row

/-- The place in video memory of the row of an object that the present line shows. Of a tall object
the even tile is the upper half. -/
def objectRowPlace (v : Video) (o : SpriteEntry) : Nat :=
  let row := v.objectRow o
  let tile := if v.objectHeight = 16 then o.tile &&& 0xFE else o.tile
  let bank := if v.isColour && hasBit o.flags 0x08 then bankSize else 0
  bank + (tile + (row / 8).toUInt8).toNat * 16 + row % 8 * 2

/-- The colour number of column `px` of an object on the present line. -/
def objectColour (v : Video) (o : SpriteEntry) (px : Nat) : UInt8 :=
  let place := v.objectRowPlace o
  let bit := if hasBit o.flags 0x20 then px else 7 - px
  colourNumber (v.vramAt place) (v.vramAt (place + 1)) bit.toUInt8

/-- The host colour of an object's colour number. -/
def objectHostColour (v : Video) (o : SpriteEntry) (colour : UInt8) : UInt32 :=
  if v.isColour then
    v.cache.objects.toArray.getD ((o.flags &&& 0x07).toNat * 4 + colour.toNat) 0
  else if hasBit o.flags 0x10 then v.cache.obp1.toArray.getD colour.toNat 0
  else v.cache.obp0.toArray.getD colour.toNat 0

end Video

end DotMatrix
