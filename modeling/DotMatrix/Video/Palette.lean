/-!
# Shades and layers

The colours that a monochrome picture is shown in, and the switches for the three layers of the
picture. Both are choices of the host.
-/

namespace DotMatrix

/-- A colour of the host, eight bits a component. -/
structure Rgb where
  red : UInt8
  green : UInt8
  blue : UInt8
  deriving DecidableEq, Repr, Inhabited

/-- Four shades, lightest first. -/
abbrev Shades := Vector Rgb 4

namespace Shades

/-- Four shades in their order. -/
def ofFour (a b c d : Rgb) : Shades :=
  #v[a, b, c, d]

/-- The shades of the green screen. -/
def green : Shades :=
  ofFour ⟨0xE0, 0xF8, 0xD0⟩ ⟨0x88, 0xC0, 0x70⟩ ⟨0x34, 0x68, 0x56⟩ ⟨0x08, 0x18, 0x20⟩

end Shades

/-- The shades of the background and of the two object palettes. -/
structure Palette where
  bg : Shades := Shades.green
  obj0 : Shades := Shades.green
  obj1 : Shades := Shades.green
  deriving DecidableEq, Repr, Inhabited

/-- Which layers are drawn. -/
structure Layers where
  bg : Bool := true
  win : Bool := true
  obj : Bool := true
  deriving DecidableEq, Repr, Inhabited

end DotMatrix
