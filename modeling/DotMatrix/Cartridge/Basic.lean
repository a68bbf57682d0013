import DotMatrix.Cartridge.Clock
import DotMatrix.Cartridge.Header
import DotMatrix.Slot

/-!
# Cartridges

A cartridge is a ROM image with RAM, perhaps a clock, and a bank controller that decides which
part of either the bus sees. `Cartridge.ofRom` builds one in its power-on state, and `romSlot` and
`ramSlot` give the slots of the address space that it fills.
-/

namespace DotMatrix

/-- The registers of a bank controller beyond the bank numbers themselves. -/
inductive Mapper
  | plain
  | mbc1 (low high mode : UInt8)
  | mbc2
  | mbc3 (ramMapped : Bool) (clockRegister : UInt8)
  | mbc5
  deriving DecidableEq, Repr, Inhabited

/-- The registers of a controller at power-on. -/
def Mapper.powerOn : Controller → Mapper
  | .plain => .plain
  | .mbc1 => .mbc1 1 0 0
  | .mbc2 => .mbc2
  | .mbc3 => .mbc3 true 0x08
  | .mbc5 => .mbc5

/-- A cartridge. The RAM block always has the largest size; the first `ramSize` bytes are real. -/
structure Cartridge where
  rom : Rom
  ram : Array UInt8
  cartType : UInt8
  controller : Controller
  features : Features
  romSize : Nat
  ramSize : Nat
  romBanks : UInt16
  ramBanks : UInt8
  mapper : Mapper
  romBank : UInt16
  ramBank : UInt8
  ramEnabled : Bool
  clock : Clock
  deriving Inhabited

namespace Cartridge

/-- Whether the RAM of such a cartridge has no enable register and is always on. -/
def ramAlwaysOn (controller : Controller) (features : Features) : Bool :=
  controller = .plain && features.ram

/-- The cartridge with the given header, in its power-on state. -/
def ofHeader (header : Header) (rom : Rom) : Cartridge :=
  { rom := rom.extract 0 header.romSize
    ram := Array.replicate Header.maxRamSize 0
    cartType := header.cartType
    controller := header.controller
    features := header.features
    romSize := header.romSize
    ramSize := header.ramSize
    romBanks := (header.romSize / 0x4000).toUInt16
    ramBanks := (max (header.ramSize / 0x2000) 1).toUInt8
    mapper := Mapper.powerOn header.controller
    romBank := 1
    ramBank := 0
    ramEnabled := ramAlwaysOn header.controller header.features
    clock := {} }

/-- The cartridge of an image, or why the image is none. -/
def ofRom (rom : Rom) : Except Fault Cartridge := do
  let header ← Header.read rom
  return ofHeader header rom

/-- The bank registers return to their power-on values; RAM and clock are kept. -/
def reset (c : Cartridge) : Cartridge :=
  { c with
    mapper := Mapper.powerOn c.controller
    romBank := 1
    ramBank := 0
    ramEnabled := ramAlwaysOn c.controller c.features }

/-- The byte of the ROM at `i`, `0xFF` past its end. -/
def romByte (c : Cartridge) (i : Nat) : UInt8 :=
  c.rom.byte i

/-- The byte of the RAM block at `i`, `0xFF` past its end. -/
def ramByte (c : Cartridge) (i : Nat) : UInt8 :=
  c.ram.getD i 0xFF

/-- Sets the clock, with every register brought into its range. -/
def setClock (c : Cartridge) (clock : Clock) : Cartridge :=
  { c with clock := clock.clamped }

/-- One second passes for the clock, if the cartridge has one. -/
def tickClock (c : Cartridge) : Cartridge :=
  if c.features.clock then { c with clock := c.clock.tick } else c

/-! ## Slots -/

/-- The bank seen at `0000` to `3FFF`: bank 0, unless a large MBC1 cartridge in mode 1 moves it. -/
def lowBank (c : Cartridge) : UInt16 :=
  match c.mapper with
  | .mbc1 _ high mode =>
    if mode == 1 && c.romBanks > 18 then (high.toUInt16 <<< 5) % c.romBanks else 0
  | _ => 0

/-- Slot `i` of the eight ROM slots: four for the low bank, four for the selected one. -/
def romSlot (c : Cartridge) (i : Nat) : Slot :=
  let base :=
    if i < 4 then c.lowBank.toNat * 0x4000 + i * 0x1000
    else c.romBank.toNat * 0x4000 + (i - 4) * 0x1000
  ⟨.rom, base, 0x0FFF⟩

/-- The RAM bank seen at `A000` to `BFFF`: an MBC1 controller in mode 0 shows bank 0. -/
def shownRamBank (c : Cartridge) : Nat :=
  match c.mapper with
  | .mbc1 _ _ mode => if mode == 0 then 0 else c.ramBank.toNat
  | _ => c.ramBank.toNat

/-- A slot of RAM, `upper` for the second of the two. RAM of less than a bank is mirrored. -/
def ramStoreSlot (c : Cartridge) (upper : Bool) : Slot :=
  if c.ramSize = 0 then .empty
  else
    let base := c.shownRamBank * 0x2000
    let mask := (min (c.ramSize - 1) 0x0FFF).toUInt16
    ⟨.cartRam, if upper && 0x2000 ≤ c.ramSize then base + 0x1000 else base, mask⟩

/-- One of the two slots at `A000` to `BFFF`: nothing while disabled, else a clock register or
RAM. -/
def ramSlot (c : Cartridge) (upper : Bool) : Slot :=
  if !c.ramEnabled then .empty
  else match c.mapper with
    | .mbc3 false register => ⟨.clock register, 0, 0⟩
    | _ => c.ramStoreSlot upper

end Cartridge

end DotMatrix
