import DotMatrix.Model
import DotMatrix.Video.Palette

/-!
# Settings

What the host chooses before and while a console runs: the model, whether the cartridge clock runs
with the frames, the shades, the layers, and the rate of the sound.
-/

namespace DotMatrix

/-- The choice of the model: by the cartridge, or a fixed one. -/
inductive ModelChoice
  | auto
  | fixed (model : Model)
  deriving DecidableEq, Repr, Inhabited

/-- The model that is forced, if one is. -/
def ModelChoice.forced : ModelChoice → Option Model
  | .auto => none
  | .fixed model => some model

/-- What drives the cartridge clock: the frames, one second for every sixty, or the host alone. -/
inductive ClockDrive
  | frames
  | host
  deriving DecidableEq, Repr, Inhabited

/-- The choice of the shades: the standard ones, or the host's own. -/
inductive PaletteChoice
  | standard
  | custom (palette : Palette)
  deriving DecidableEq, Repr, Inhabited

/-- The shades of a choice. -/
def PaletteChoice.palette : PaletteChoice → Palette
  | .standard => {}
  | .custom palette => palette

/-- The choices of a host. -/
structure Settings where
  model : ModelChoice := .auto
  clockDrive : ClockDrive := .frames
  palette : PaletteChoice := .standard
  layers : Layers := {}
  sampleRate : Nat := 48000
  deriving DecidableEq, Repr, Inhabited

end DotMatrix
