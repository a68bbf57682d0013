import DotMatrix.Console.Basic

/-!
# The host's side of a console

What a host does with a console between its turns: the joypad, the picture, the sound, the cable,
battery saves, the clock and snapshots. A choice that is also a setting stays one, so that a reset
keeps it.
-/

namespace DotMatrix

namespace Console

/-! ## Devices -/

/-- Presses or releases the buttons of `mask`. -/
def setButtons (c : Console) (mask : UInt8) (down : Bool) : Console :=
  c.onBus fun b => b.setButtons mask down

/-- Chooses the shades. -/
def setPalette (c : Console) (palette : Palette) : Console :=
  let c := c.onVideo fun v => v.setPalette palette
  { c with settings := { c.settings with palette := .custom palette } }

/-- Chooses the layers. -/
def setLayers (c : Console) (layers : Layers) : Console :=
  let c := c.onVideo fun v => v.setLayers layers
  { c with settings := { c.settings with layers := layers } }

/-- Attaches a picture. -/
def setScreen (c : Console) (screen : PixelBuffer) : Console :=
  c.onVideo fun v => v.setScreen (some screen)

/-- The picture that is attached. -/
def screen (c : Console) : Option PixelBuffer :=
  c.core.bus.video.screen

/-- Takes the picture back. -/
def takeScreen (c : Console) : Console :=
  c.onVideo Video.takeScreen

/-- Brings a tint, or takes it away. -/
def setTint (c : Console) (tint : Option Tint) : Console :=
  c.onVideo fun v => v.setTint tint

/-- Installs or removes a recorder. -/
def setRecorder (c : Console) (recorder : Option (Array Sample)) (rate : Nat) : Console :=
  let c := c.onSound fun s => s.setRecorder recorder rate
  { c with settings := { c.settings with sampleRate := rate } }

/-- Asks for another sample rate. -/
def setSampleRate (c : Console) (rate : Nat) : Console :=
  let c := c.onSound fun s => s.setSampleRate rate
  { c with settings := { c.settings with sampleRate := rate } }

/-- What the recorder holds. -/
def recorded (c : Console) : Array Sample :=
  c.core.bus.sound.recorder.getD #[]

/-- Plugs a cable in, or pulls it out. -/
def setCable (c : Console) (cable : Option Cable) : Console :=
  c.onBus fun b => { b with link := { b.link with cable := cable } }

/-- The bytes that the present cable has carried. -/
def sent (c : Console) : Array UInt8 :=
  c.core.bus.link.cable.elim #[] Cable.sent

/-! ## Battery and clock -/

/-- Whether there is a cartridge that keeps its RAM. -/
def hasSave (c : Console) : Bool :=
  c.cart.elim false Cartridge.hasSave

/-- The size of a battery save, 0 when there is none. -/
def saveSize (c : Console) : Nat :=
  c.cart.elim 0 Cartridge.saveSize

/-- The battery save. -/
def saveData (c : Console) : Except Fault (Array UInt8) :=
  match c.cart with
  | none => .error .noRomLoaded
  | some cart => cart.saveData

/-- Exchanges the cartridge for one that differs in RAM or clock. -/
def withCart (c : Console) (cart : Cartridge) : Console :=
  c.onBus fun b => { b with cart := some cart }

/-- Loads a battery save; a save without the clock block is noticed. -/
def loadSave (c : Console) (data : Array UInt8) : Except Fault Console :=
  match c.cart with
  | none => .error .noRomLoaded
  | some cart => do
    let loaded ← cart.loadSave data
    let c := c.withCart loaded
    return if cart.lacksClockBlock data then c.onBus fun b => b.report .clockBlockMissing else c

/-- The clock, if the cartridge has one. -/
def clock (c : Console) : Option Clock :=
  c.cart.bind fun cart => if cart.features.clock then some cart.clock else none

/-- Sets the clock, with every register brought into its range. -/
def setClock (c : Console) (clock : Clock) : Except Fault Console :=
  match c.cart with
  | none => .error .noRomLoaded
  | some cart =>
    if cart.features.clock then .ok (c.withCart (cart.setClock clock)) else .error .noClock

/-! ## Snapshots -/

/-- A snapshot. -/
def saveState (c : Console) : List UInt8 :=
  Snapshot.encode c.core

/-- Goes back to a snapshot, or says why not; then nothing changes. -/
def loadState (c : Console) (data : List UInt8) : Except Fault Console := do
  let core ← Snapshot.restore c.core data
  return applySettings { c with core := core }

end Console

end DotMatrix
