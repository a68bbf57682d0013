import DotMatrix.Video.Basic

/-!
# Tile maps

The background and the window are planes of 256 by 256 pixels, made of tiles of eight by eight.
A map in video memory names the tile for every place, and on colour models a second map in the
other bank gives each place a palette, a bank, mirroring and a priority.
-/

namespace DotMatrix

/-- A pixel of a plane: its colour number, its palette, and whether it stands before objects. -/
structure TilePixel where
  colour : UInt8
  palette : UInt8
  priority : Bool
  deriving DecidableEq, Repr

namespace Video

/-- The map that a bit of LCDC selects, as a place in video memory. -/
def mapBase (upper : Bool) : Nat :=
  if upper then 0x1C00 else 0x1800

/-- The place of a tile: numbered from 0, or as a signed number around `0x1000`. -/
def tileBase (v : Video) (tile : UInt8) : Nat :=
  if hasBit v.lcdc 0x10 then tile.toNat * 16
  else if tile < 0x80 then 0x1000 + tile.toNat * 16
  else tile.toNat * 16

/-- The colour number at bit `bit` of a row of two bytes. -/
def colourNumber (low high : UInt8) (bit : UInt8) : UInt8 :=
  ((high >>> bit) &&& 1) <<< 1 ||| ((low >>> bit) &&& 1)

/-- The attributes of a place of the map, zero on models without them. -/
def attributesAt (v : Video) (place : Nat) : UInt8 :=
  if v.isColour then v.vramAt (bankSize + place) else 0

/-- The place in video memory of row `row` of the tile at a place of the map. -/
def tileRow (v : Video) (place row : Nat) : Nat :=
  let attributes := v.attributesAt place
  let row := if hasBit attributes 0x40 then 7 - row else row
  let bank := if hasBit attributes 0x08 then bankSize else 0
  bank + v.tileBase (v.vramAt place) + row * 2

/-- The pixel at column `x` and row `y` of the plane with the given map. -/
def planePixel (v : Video) (base x y : Nat) : TilePixel :=
  let place := base + y / 8 * 32 + x / 8
  let attributes := v.attributesAt place
  let bit := if hasBit attributes 0x20 then x % 8 else 7 - x % 8
  let row := v.tileRow place (y % 8)
  { colour := colourNumber (v.vramAt row) (v.vramAt (row + 1)) bit.toUInt8
    palette := attributes &&& 0x07
    priority := hasBit attributes 0x80 }

end Video

end DotMatrix
