import DotMatrix.Word

/-!
# Host colours

The machine knows colours of five bits a component; the host wants pixel values. `defaultColour`
is the conversion of a host without wishes of its own: luminance for one byte a pixel, RGB565 for
two, ARGB for more. A host may bring a `Tint` instead, which also records what it was asked.
-/

namespace DotMatrix

/-- What a colour is converted for. -/
inductive ColourKind
  | shade
  | background
  | object
  deriving DecidableEq, Repr

/-- A conversion that was asked for. -/
structure ColourCall where
  kind : ColourKind
  red : UInt8
  green : UInt8
  blue : UInt8
  deriving DecidableEq, Repr

/-- A conversion of the host's own, with the calls it has had. -/
structure Tint where
  convert : ColourCall → UInt32
  calls : Array ColourCall := #[]

/-- Adds calls to those the tint has had. -/
def Tint.record (t : Tint) (calls : List ColourCall) : Tint :=
  { t with calls := t.calls.appendList calls }

/-- A five-bit component in eight bits. -/
def expandComponent (c : UInt8) : UInt32 :=
  ((c <<< 3) ||| (c >>> 2)).toUInt32

/-- The conversion of a host without a tint, by the bytes of a pixel. -/
def defaultColour (bytesPerPixel : Nat) (r g b : UInt8) : UInt32 :=
  if bytesPerPixel = 1 then
    (expandComponent r * 3 + expandComponent g * 6 + expandComponent b) / 10
  else if bytesPerPixel = 2 then
    (r.toUInt32 <<< 11) ||| (((g.toUInt32 <<< 1) ||| (g.toUInt32 >>> 4)) <<< 5) ||| b.toUInt32
  else
    (0xFF000000 : UInt32) ||| (expandComponent r <<< 16) ||| (expandComponent g <<< 8) |||
      expandComponent b

/-- The components of a colour as colour memory holds it: five bits each, red lowest. -/
def unpackColour (kind : ColourKind) (low high : UInt8) : ColourCall :=
  let raw := word high low
  { kind := kind
    red := (raw &&& 0x1F).toUInt8
    green := ((raw >>> 5) &&& 0x1F).toUInt8
    blue := ((raw >>> 10) &&& 0x1F).toUInt8 }

end DotMatrix
