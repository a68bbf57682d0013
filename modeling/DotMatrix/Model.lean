/-!
# Console models

The hardware families the machine can be, and the sizes that all of them share.
-/

namespace DotMatrix

/-- A hardware family. It fixes the power-up registers and whether the colour hardware (memory
banking, colour palettes, block transfers, double speed) is present. -/
inductive Model
  | dmg
  | sgb
  | gbc
  deriving DecidableEq, Repr, Inhabited

namespace Model

/-- The name shown to people. -/
def name : Model → String
  | dmg => "DMG"
  | sgb => "SGB"
  | gbc => "GBC"

/-- The name written into snapshots and fault records. -/
def tag : Model → String
  | dmg => "Dmg"
  | sgb => "Sgb"
  | gbc => "Gbc"

/-- Whether the colour hardware is present. -/
def isColour : Model → Bool
  | gbc => true
  | _ => false

end Model

/-- Base-clock cycles in one frame: 154 lines of 456. -/
def cyclesPerFrame : Nat := 70224

/-- Visible pixels in a line. -/
def screenWidth : Nat := 160

/-- Visible lines in a frame. -/
def screenHeight : Nat := 144

end DotMatrix
