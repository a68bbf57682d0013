import DotMatrix.Cartridge.Battery
import DotMatrix.Inspect.Report
import DotMatrix.Slot

/-!
# Cartridges, shown

The header of an image, the state of a cartridge, and the slots it fills.
-/

namespace DotMatrix

/-- What a cartridge is equipped with. -/
def Features.items (f : Features) : List (String × Report) :=
  [("ram", f.ram), ("battery", f.battery), ("rtc", f.clock), ("rumble", f.rumble)]

/-- How much a cartridge has to do with the colour hardware. -/
def ColourSupport.name : ColourSupport → String
  | none => "None"
  | compatible => "Compatible"
  | only => "Only"

/-- A header. -/
def Header.inspect (h : Header) : Report :=
  .fields (h.features.items.append [("title", h.title), ("cart_type", h.cartType),
    ("mbc", h.controller.tag), ("rom_size", h.romSize), ("ram_size", h.ramSize),
    ("cgb", h.colour.name), ("sgb", h.sgb), ("checksum_ok", h.checksumOk),
    ("preferred", h.preferredModel.name)])

/-- The registers of the clock in their order. -/
def Clock.inspect (c : Clock) : Report :=
  .list [c.seconds, c.minutes, c.hours, c.dayLow, c.dayHigh]

/-- The registers of the clock by name. -/
def Clock.items (c : Clock) : Report :=
  .fields [("s", c.seconds), ("m", c.minutes), ("h", c.hours), ("dl", c.dayLow), ("dh", c.dayHigh)]

/-- A bank controller with the registers of its own. -/
def Mapper.inspect : Mapper → Report
  | plain => "Mbc0"
  | mbc1 low high mode => .fields [("Mbc1", .fields [("lo", low), ("hi", high), ("mode", mode)])]
  | mbc2 => "Mbc2"
  | mbc3 mapped register => .fields [("Mbc3", .fields [("in_ram", mapped), ("rtc_reg", register)])]
  | mbc5 => "Mbc5"

/-- A slot: the store behind it, where it begins there, and its mask. -/
def Slot.text (s : Slot) : String :=
  let place := ":" ++ lowerHex 1 s.base ++ ":" ++ lowerHex 1 s.mask.toNat
  match s.region with
  | .rom => "Rom" ++ place
  | .cartRam => "CartRam" ++ place
  | .clock register => "Rtc" ++ lowerHex 2 register.toNat ++ place
  | .vram => "Vram" ++ place
  | .wram => "Wram" ++ place
  | .empty => "-"

/-- Slots in a row. -/
def Slot.row (slots : List Slot) : Report :=
  .text (String.intercalate " " (slots.map Slot.text))

namespace Cartridge

/-- The cartridge. -/
def inspect (c : Cartridge) : Report :=
  .fields [("ram", .digest c.ram), ("cart_type", c.cartType), ("kind", c.controller.tag),
    ("flags", .fields c.features.items), ("rom_size", c.romSize), ("ram_size", c.ramSize),
    ("rom_bank_max", c.romBanks), ("ram_bank_max", c.ramBanks), ("mbc", c.mapper.inspect),
    ("rom_bank", c.romBank), ("ram_bank", c.ramBank), ("ram_enabled", c.ramEnabled),
    ("rtc", c.clock.items)]

/-- The banks that are selected. -/
def banks (c : Cartridge) : Report :=
  .list [c.romBank, c.ramBank, c.ramEnabled]

/-- The slots that the cartridge fills: eight of ROM and two of RAM. -/
def slots (c : Cartridge) : List Slot :=
  (List.range 8).map c.romSlot ++ [c.ramSlot false, c.ramSlot true]

/-- What is known of the cartridge from its header. -/
def about (c : Cartridge) : Report :=
  .list [c.controller.tag, c.cartType, c.features.ram, c.features.battery, c.features.clock,
    c.features.rumble, c.rom.size, c.ramSize, c.features.clock, c.hasSave, c.saveSize]

end Cartridge

end DotMatrix
