import DotMatrix.Cartridge.Battery
import DotMatrix.Cpu.Run
import DotMatrix.Settings
import DotMatrix.Snapshot.File

/-!
# The console

A machine with the choices of its host: which model to be, the shades and layers, the rate of the
sound, and whether the cartridge clock follows the frames. A console starts without a cartridge.
-/

namespace DotMatrix

/-- A console. `frames` counts the frames since the last reset. -/
structure Console where
  core : Core
  settings : Settings
  header : Option Header
  frames : UInt32
  deriving Inhabited

namespace Console

/-- The frames that make a second for the cartridge clock. -/
def framesPerSecond : UInt32 := 60

/-- Changes the bus. -/
@[inline]
def onBus (c : Console) (f : Bus → Bus) : Console :=
  { c with core := { c.core with bus := f c.core.bus } }

/-- Changes the picture unit. -/
@[inline]
def onVideo (c : Console) (f : Video → Video) : Console :=
  c.onBus fun b => { b with video := f b.video }

/-- Changes the sound unit. -/
@[inline]
def onSound (c : Console) (f : Sound → Sound) : Console :=
  c.onBus fun b => { b with sound := f b.sound }

/-- The cartridge. -/
def cart (c : Console) : Option Cartridge :=
  c.core.bus.cart

/-- The model that is running. -/
def model (c : Console) : Model :=
  c.core.bus.model

/-! ## Power-up -/

/-- The devices take over the settings. -/
def applySettings (c : Console) : Console :=
  let palette := c.settings.palette.palette
  let layers := c.settings.layers
  let rate := c.settings.sampleRate
  (c.onVideo fun v => (v.setPalette palette).setLayers layers).onSound fun s => s.setSampleRate rate

/-- A console without a cartridge, of the model that is asked for. -/
def new (settings : Settings) : Console :=
  let model := settings.model.forced.getD .dmg
  applySettings
    { core := { cpu := Cpu.boot model, bus := Bus.new model }
      settings := settings
      header := none
      frames := 0 }

/-- The state after the boot program of a model. The cartridge keeps its RAM and its clock. -/
def resetTo (c : Console) (model : Model) : Console :=
  let c := c.onBus fun b => b.reset model
  let c := { c with core := { c.core with cpu := Cpu.boot model } }
  { c.applySettings with frames := 0 }

/-- The state after the boot program of the present model. -/
def reset (c : Console) : Console :=
  c.resetTo c.model

/-- Puts a cartridge in and starts it. -/
def start (c : Console) (header : Header) (cart : Cartridge) (model : Model) : Console :=
  let notices := header.notices ++ [.running header.title model]
  let c := c.onBus fun b => (b.reportAll notices).insert cart
  resetTo { c with header := some header } model

/-- Starts the cartridge of an image, or says why it cannot; then nothing changes. -/
def load (c : Console) (rom : Rom) : Except Fault Console := do
  let header ← Header.read rom
  let model ← header.selectModel c.settings.model.forced
  return c.start header (Cartridge.ofHeader header rom) model

/-! ## Time -/

/-- One turn; also gives the base-clock cycles that have passed. -/
def turn (c : Console) : Console × Nat :=
  let (core, cycles) := c.core.turn
  ({ c with core := core }, cycles)

/-- Runs for at least the given base-clock cycles; also gives how many it was. -/
def run (c : Console) (cycles : Nat) : Console × Nat :=
  let (core, elapsed) := c.core.run cycles
  ({ c with core := core }, elapsed)

/-- One second passes for the cartridge clock. -/
def tickClock (c : Console) : Console :=
  c.onBus fun b => { b with cart := b.cart.map Cartridge.tickClock }

/-- Counts a frame; every sixtieth is a second for the clock, if it follows the frames. -/
def countFrame (c : Console) : Console :=
  let c := { c with frames := c.frames + 1 }
  if c.settings.clockDrive = .frames && c.frames % framesPerSecond == 0 then c.tickClock else c

/-- Runs for a frame; also gives the base-clock cycles it was. -/
def runFrame (c : Console) : Console × Nat :=
  let (c, elapsed) := c.run cyclesPerFrame
  (c.countFrame, elapsed)

/-- Runs for a number of frames; also gives the base-clock cycles, added to `elapsed`. -/
def runFrames : Nat → Nat → Console → Console × Nat
  | 0, elapsed, c => (c, elapsed)
  | n + 1, elapsed, c =>
    let (c, cycles) := c.runFrame
    runFrames n (elapsed + cycles) c

end Console

end DotMatrix
