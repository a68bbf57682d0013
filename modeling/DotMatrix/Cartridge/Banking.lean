import DotMatrix.Cartridge.Basic

/-!
# Bank selection

Writes to ROM addresses do not change the ROM: they set the registers of the bank controller.
Each controller has its own function from register writes to bank numbers, and every bank number
is stored reduced modulo the number of banks there are. Writes to `A000` to `BFFF` reach whatever
the controller shows there.
-/

namespace DotMatrix

namespace Cartridge

/-- The value that switches RAM on, in the low four bits. -/
def enablesRam (val : UInt8) : Bool :=
  val &&& 0x0F == 0x0A

/-- The bank `n` of a cartridge that may have fewer. -/
def wrapRomBank (c : Cartridge) (n : UInt16) : UInt16 :=
  n % c.romBanks

/-- The bank that the two bank registers of an MBC1 controller name. -/
def mbc1Bank (low high : UInt8) : UInt16 :=
  high.toUInt16 <<< 5 ||| low.toUInt16

/-- Whether the image is large enough for the upper bank register of an MBC1 controller. -/
def hasHighBanks (c : Cartridge) : Bool :=
  c.romBanks > 18

/-- A control write on an MBC1 cartridge. -/
def writeMbc1 (c : Cartridge) (low high mode : UInt8) (addr : UInt16) (val : UInt8) : Cartridge :=
  if addr < 0x2000 then { c with ramEnabled := enablesRam val }
  else if addr < 0x4000 then
    let low := max (val &&& 0x1F) 1
    { c with mapper := .mbc1 low high mode, romBank := c.wrapRomBank (mbc1Bank low high) }
  else if addr < 0x6000 then
    let high := if c.hasHighBanks then val &&& 0x03 else high
    { c with
      mapper := .mbc1 low high mode
      romBank := if c.hasHighBanks then c.wrapRomBank (mbc1Bank low high) else c.romBank
      ramBank := if c.features.ram then (val &&& 0x03) % c.ramBanks else c.ramBank }
  else if addr < 0x8000 then
    let mode := val &&& 0x01
    { c with
      mapper := .mbc1 low high mode
      romBank := if c.hasHighBanks && mode == 0 then c.wrapRomBank low.toUInt16 else c.romBank }
  else c

/-- A control write on an MBC2 cartridge: address bit 8 tells the two registers apart. -/
def writeMbc2 (c : Cartridge) (addr : UInt16) (val : UInt8) : Cartridge :=
  if addr < 0x4000 then
    if addr &&& 0x0100 == 0 then { c with ramEnabled := enablesRam val }
    else { c with romBank := c.wrapRomBank (max (val &&& 0x0F) 1).toUInt16 }
  else c

/-- A control write on an MBC3 cartridge: the third register selects a RAM bank or a register of
the clock. The clock needs no latch, its registers are always live. -/
def writeMbc3 (c : Cartridge) (addr : UInt16) (val : UInt8) : Cartridge :=
  if addr < 0x2000 then { c with ramEnabled := enablesRam val }
  else if addr < 0x4000 then { c with romBank := c.wrapRomBank (max val 1).toUInt16 }
  else if addr < 0x6000 then
    match c.mapper with
    | .mbc3 _ register =>
      if val ≤ 0x03 then
        { c with mapper := .mbc3 true register, ramBank := (val &&& 0x03) % c.ramBanks }
      else if 0x08 ≤ val && val ≤ 0x0C && c.features.clock then
        { c with mapper := .mbc3 false val }
      else c
    | _ => c
  else c

/-- A control write on an MBC5 cartridge: the ROM bank has a low byte and a ninth bit. -/
def writeMbc5 (c : Cartridge) (addr : UInt16) (val : UInt8) : Cartridge :=
  if addr < 0x2000 then { c with ramEnabled := val == 0x0A }
  else if addr < 0x3000 then
    { c with romBank := c.wrapRomBank ((c.romBank &&& 0x100) ||| val.toUInt16) }
  else if addr < 0x4000 then
    { c with
      romBank := c.wrapRomBank (((val &&& 0x01).toUInt16 <<< 8) ||| (c.romBank &&& 0xFF)) }
  else if addr < 0x6000 then { c with ramBank := (val &&& 0x0F) % c.ramBanks }
  else c

/-- A write to `0000` to `7FFF`; above there are no control registers. -/
def writeControl (c : Cartridge) (addr : UInt16) (val : UInt8) : Cartridge :=
  match c.mapper with
  | .plain => c
  | .mbc1 low high mode => c.writeMbc1 low high mode addr val
  | .mbc2 => c.writeMbc2 addr val
  | .mbc3 _ _ => c.writeMbc3 addr val
  | .mbc5 => c.writeMbc5 addr val

/-- Writes a byte of RAM through the slot of the address. -/
def writeRamStore (c : Cartridge) (addr : UInt16) (val : UInt8) : Cartridge :=
  let slot := c.ramStoreSlot (addr &&& 0x1000 != 0)
  if slot.region = .cartRam then { c with ram := c.ram.setIfInBounds (slot.offset addr) val }
  else c

/-- A write to `A000` to `BFFF`. The RAM inside an MBC2 controller is four bits wide. -/
def writeRam (c : Cartridge) (addr : UInt16) (val : UInt8) : Cartridge :=
  if !c.ramEnabled then c
  else match c.mapper with
    | .mbc2 =>
      { c with ram := c.ram.setIfInBounds (addr &&& 0x01FF).toNat ((val &&& 0x0F) ||| 0xF0) }
    | .mbc3 false register => { c with clock := c.clock.write register val }
    | _ => c.writeRamStore addr val

end Cartridge

end DotMatrix
