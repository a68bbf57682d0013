import DotMatrix.Cpu.Execute
import DotMatrix.Snapshot.Picture

/-!
# Cartridge and bus in snapshots

The cartridge without its ROM, the bus with all its devices, and the processor beside the bus. The
table of slots follows from the rest and is not written, nor is anything of the host's.
-/

namespace DotMatrix

namespace Codec

/-! ## The cartridge -/

/-- The families of bank controllers in their order. -/
def controllers : List Controller := [.plain, .mbc1, .mbc2, .mbc3, .mbc5]

/-- The family of bank controllers. -/
def controller : Codec Controller :=
  choice controllers Controller.tag

/-- What a cartridge has beside its ROM. -/
def features : Codec Features :=
  (record <|
    flag.field "ram" <| flag.field "battery" <| flag.field "rtc" <| flag.lastField "rumble").view
    (fun f => (f.ram, f.battery, f.clock, f.rumble))
    (fun (ram, battery, clock, rumble) => { ram, battery, clock, rumble })

/-- The registers of an MBC1 controller: low bank, high bank and mode. -/
def mbc1Registers : Codec (UInt8 × UInt8 × UInt8) :=
  record <| byte.field "lo" <| byte.field "hi" <| byte.lastField "mode"

/-- The registers of an MBC3 controller: whether RAM is shown, and the clock register. -/
def mbc3Registers : Codec (Bool × UInt8) :=
  record <| flag.field "in_ram" <| byte.lastField "rtc_reg"

/-- Shows a bank controller: its name, with its registers if it has any. -/
def writeMapper : Mapper → Item
  | .plain => controller.write .plain
  | .mbc1 low high mode =>
    .table [(controller.write .mbc1, mbc1Registers.write (low, high, mode))]
  | .mbc2 => controller.write .mbc2
  | .mbc3 ramMapped clockRegister =>
    .table [(controller.write .mbc3, mbc3Registers.write (ramMapped, clockRegister))]
  | .mbc5 => controller.write .mbc5

/-- Takes back a bank controller of the given family from its registers, if it has any. -/
def readRegisters (content : Option Item) : Controller → Option Mapper
  | .plain => if isBare content then some .plain else none
  | .mbc1 => do
    let (low, high, mode) ← mbc1Registers.read (← content)
    return .mbc1 low high mode
  | .mbc2 => if isBare content then some .mbc2 else none
  | .mbc3 => do
    let (ramMapped, clockRegister) ← mbc3Registers.read (← content)
    return .mbc3 ramMapped clockRegister
  | .mbc5 => if isBare content then some .mbc5 else none

/-- Takes back a bank controller. -/
def readMapper (i : Item) : Option Mapper := do
  let (tag, content) ← choiceParts? i
  let p ← tag.placeIn? (controllers.map Controller.tag)
  readRegisters content (← controllers[p]?)

/-- A bank controller. -/
def mapper : Codec Mapper := ⟨writeMapper, readMapper⟩

/-- The clock. -/
def clock : Codec Clock :=
  (record <|
    byte.field "s" <| byte.field "m" <| byte.field "h" <| byte.field "dl" <|
      byte.lastField "dh").view
    (fun c => (c.seconds, c.minutes, c.hours, c.dayLow, c.dayHigh))
    (fun (seconds, minutes, hours, dayLow, dayHigh) => { seconds, minutes, hours, dayLow, dayHigh })

/-- The cartridge. One that is read has no ROM. -/
def cartridge : Codec Cartridge :=
  (record <|
    memory.field "ram" <| byte.field "cart_type" <| controller.field "kind" <|
      features.field "flags" <| size.field "rom_size" <| size.field "ram_size" <|
      word.field "rom_bank_max" <| byte.field "ram_bank_max" <| mapper.field "mbc" <|
      word.field "rom_bank" <| byte.field "ram_bank" <| flag.field "ram_enabled" <|
      clock.lastField "rtc").view
    (fun c => (c.ram, c.cartType, c.controller, c.features, c.romSize, c.ramSize, c.romBanks,
      c.ramBanks, c.mapper, c.romBank, c.ramBank, c.ramEnabled, c.clock))
    (fun (ram, cartType, controller, features, romSize, ramSize, romBanks, ramBanks, mapper,
        romBank, ramBank, ramEnabled, clock) =>
      { rom := ByteArray.empty
        ram, cartType, controller, features, romSize, ramSize, romBanks, ramBanks, mapper,
        romBank, ramBank, ramEnabled, clock })

/-! ## The machine -/

/-- The bus. One that is read shows nothing in its slots. -/
def bus : Codec Bus :=
  (record <|
    memory.field "wram" <| (bytes 0x7F).field "hram" <|
      (optional cartridge).fieldOr "cart" (some none) <| byte.field "if_reg" <|
      byte.field "ie_reg" <| link.field "serial" <| video.field "ppu" <| sound.field "apu" <|
      timer.field "timer" <| joypad.field "input" <| byte.field "key1" <| byte.field "svbk" <|
      (bytes 4).field "undoc" <| model.field "system" <| cycles.lastField "stall_cycles").view
    (fun b => (b.wram, b.hram, b.cart, b.requests, b.enables, b.link, b.video, b.sound, b.timer,
      b.joypad, b.key1, b.svbk, b.undocumented, b.model, b.stall))
    (fun (wram, hram, cart, requests, enables, link, video, sound, timer, joypad, key1, svbk,
        undocumented, model, stall) =>
      { wram, hram, cart, requests, enables, link, video, sound, timer, joypad, key1, svbk,
        undocumented, model, stall
        slots := Vector.replicate 16 .empty
        hooks := {}
        notices := #[] })

/-- The processor and the bus. -/
def core : Codec Core :=
  (record <| cpu.field "cpu" <| bus.lastField "mmu").view
    (fun m => (m.cpu, m.bus)) (fun (cpu, bus) => { cpu, bus })

end Codec

end DotMatrix
