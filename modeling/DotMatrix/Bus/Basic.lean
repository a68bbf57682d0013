import DotMatrix.Cartridge.Banking
import DotMatrix.Joypad
import DotMatrix.Link
import DotMatrix.Notice
import DotMatrix.Sound.Output
import DotMatrix.Sound.Registers
import DotMatrix.Timer
import DotMatrix.Video.Registers

/-!
# The bus

Everything the processor can reach: work memory, the cartridge, the devices, the interrupt bytes,
and the table of sixteen slots that resolves an address below `FE00`. The table is rebuilt by
`remap` whenever a bank selection may have changed. The host may count frames and lines, and reads
the notices.
-/

namespace DotMatrix

/-- What the host counts: frames drawn, and the line of every line drawn, if it wants them. -/
structure Hooks where
  frames : Option Nat := none
  lines : Option (Array UInt8) := none
  deriving DecidableEq, Repr, Inhabited

/-- The same counters, started again. -/
def Hooks.restarted (h : Hooks) : Hooks :=
  { frames := h.frames.map fun _ => 0, lines := h.lines.map fun _ => #[] }

/-- The state of the bus. -/
structure Bus where
  wram : Array UInt8
  hram : Vector UInt8 0x7F
  cart : Option Cartridge
  requests : UInt8
  enables : UInt8
  link : Link
  video : Video
  sound : Sound
  timer : Timer
  joypad : Joypad
  key1 : UInt8
  svbk : UInt8
  undocumented : Vector UInt8 4
  model : Model
  stall : Nat
  slots : Vector Slot 16
  hooks : Hooks
  notices : Array Notice

namespace Bus

/-- Bytes in a bank of work memory. -/
def wramBankSize : Nat := 0x1000

/-- Bytes of work memory. -/
def wramSize : Nat := 0x8000

/-- Whether the colour hardware is present. -/
def isColour (b : Bus) : Bool :=
  b.model.isColour

/-- Whether the processor runs at twice the base clock. -/
def doubleSpeed (b : Bus) : Bool :=
  hasBit b.key1 0x80

/-- Adds a notice. -/
def report (b : Bus) (notice : Notice) : Bus :=
  { b with notices := b.notices.push notice }

/-- Adds some notices. -/
def reportAll (b : Bus) (notices : List Notice) : Bus :=
  { b with notices := b.notices.appendList notices }

/-- The host takes the notices. -/
def takeNotices (b : Bus) : Array Notice × Bus :=
  (b.notices, { b with notices := #[] })

/-- The host takes what has been counted. -/
def takeCounts (b : Bus) : Hooks × Bus :=
  (b.hooks, { b with hooks := b.hooks.restarted })

/-! ## Slots -/

/-- The place of the selected bank of video memory. -/
def vramBase (b : Bus) : Nat :=
  if b.isColour then (b.video.vbk &&& 1).toNat * Video.bankSize else 0

/-- The place of the selected bank of work memory. -/
def wramBase (b : Bus) : Nat :=
  if b.isColour then (min (max b.svbk 1) 7).toNat * wramBankSize else wramBankSize

/-- What slot `i` shows: ROM in the lower half, then video memory, cartridge RAM and work memory.
The last two slots show the two before them again. -/
def slotFor (b : Bus) (i : Nat) : Slot :=
  if i < 0x8 then b.cart.elim .empty fun c => c.romSlot i
  else if i = 0x8 then ⟨.vram, b.vramBase, 0x0FFF⟩
  else if i = 0x9 then ⟨.vram, b.vramBase + 0x1000, 0x0FFF⟩
  else if i = 0xA then b.cart.elim .empty fun c => c.ramSlot false
  else if i = 0xB then b.cart.elim .empty fun c => c.ramSlot true
  else if i % 2 = 0 then ⟨.wram, 0, 0x0FFF⟩
  else ⟨.wram, b.wramBase, 0x0FFF⟩

/-- The whole table of slots. -/
def slotTable (b : Bus) : Vector Slot 16 :=
  Vector.ofFn fun i => b.slotFor i.val

/-- Rebuilds the table of slots. -/
def remap (b : Bus) : Bus :=
  let slots := b.slotTable
  { b with slots := slots }

/-- The slot of an address. -/
def slotAt (b : Bus) (addr : UInt16) : Slot :=
  b.slots[Fin.ofNat 16 (addr >>> 12).toNat]

/-! ## Power-up -/

/-- The divider after the boot program. -/
def bootDiv (model : Model) : UInt16 :=
  if model.isColour then 0x1EA0 else 0xABCC

/-- Memory and devices as the boot program leaves them. The cartridge keeps its RAM and clock, and
the host's side of every device stays attached. -/
def reset (b : Bus) (model : Model) : Bus :=
  remap { b with
    model := model
    wram := Array.replicate wramSize 0
    hram := Vector.replicate 0x7F 0
    requests := 0x01
    enables := 0
    video := ((Video.unpowered model).adoptHost b.video).boot
    sound := ((Sound.unpowered model.isColour).adoptHost b.sound).boot
    timer := { div := bootDiv model }
    joypad := {}
    link := { cable := b.link.cable }
    key1 := 0
    svbk := 1
    undocumented := Vector.replicate 4 0
    stall := 0
    cart := b.cart.map Cartridge.reset }

/-- A bus without a cartridge, after the boot program. -/
def new (model : Model) : Bus :=
  reset
    { wram := #[]
      hram := Vector.replicate 0x7F 0
      cart := none
      requests := 0
      enables := 0
      link := {}
      video := Video.unpowered model
      sound := Sound.unpowered model.isColour
      timer := {}
      joypad := {}
      key1 := 0
      svbk := 1
      undocumented := Vector.replicate 4 0
      model := model
      stall := 0
      slots := Vector.replicate 16 .empty
      hooks := {}
      notices := #[] }
    model

instance : Inhabited Bus := ⟨new .dmg⟩

/-- A cartridge goes in. -/
def insert (b : Bus) (cart : Cartridge) : Bus :=
  remap { b with cart := some cart }

/-- Takes over the host's side of `old`. -/
def adoptHost (b old : Bus) : Bus :=
  { b with
    video := b.video.adoptHost old.video
    sound := b.sound.adoptHost old.sound
    link := { b.link with cable := old.link.cable }
    hooks := old.hooks
    notices := old.notices }

end Bus

end DotMatrix
