import DotMatrix.Fault
import DotMatrix.Model

/-!
# The cartridge header

Bytes `0x134` to `0x14D` of a ROM image describe the cartridge. `Header.read` accepts an image
that is long enough for its header and for the size the header declares, whose bank controller is
supported, and whose RAM fits the machine. `Header.selectModel` settles which console runs it.
-/

namespace DotMatrix

/-- A ROM image. -/
abbrev Rom := ByteArray

/-- The byte of the image at `i`, `0xFF` past its end. -/
def Rom.byte (rom : Rom) (i : Nat) : UInt8 :=
  if h : i < rom.size then rom.get i h else 0xFF

/-- A family of bank controllers. -/
inductive Controller
  | plain
  | mbc1
  | mbc2
  | mbc3
  | mbc5
  deriving DecidableEq, Repr, Inhabited

/-- The name written into snapshots and reports. -/
def Controller.tag : Controller → String
  | .plain => "Mbc0"
  | .mbc1 => "Mbc1"
  | .mbc2 => "Mbc2"
  | .mbc3 => "Mbc3"
  | .mbc5 => "Mbc5"

/-- What a cartridge has beside its ROM. -/
structure Features where
  ram : Bool := false
  battery : Bool := false
  clock : Bool := false
  rumble : Bool := false
  deriving DecidableEq, Repr, Inhabited

/-- How far a cartridge uses the colour hardware. -/
inductive ColourSupport
  | none
  | compatible
  | only
  deriving DecidableEq, Repr, Inhabited

/-- What the header of an image says. -/
structure Header where
  title : String
  cartType : UInt8
  controller : Controller
  features : Features
  romSize : Nat
  ramSize : Nat
  colour : ColourSupport
  sgb : Bool
  checksumOk : Bool
  deriving DecidableEq, Repr

namespace Header

/-- The least size of an image with a whole header. -/
def endOffset : Nat := 0x150

/-- The largest cartridge RAM the machine maps: eight banks of 8 KiB. -/
def maxRamSize : Nat := 0x10000

/-- The RAM built into an MBC2 controller. -/
def mbc2RamSize : Nat := 0x200

/-- The size reported for a size code outside the table: no image is that long. -/
def unknownRomSize : Nat := 0xFFFFFFFFFFFFFFFF

/-- The controller and features of a cartridge type. -/
def ofType? (code : UInt8) : Option (Controller × Features) :=
  match code with
  | 0x00 => some (.plain, {})
  | 0x01 => some (.mbc1, {})
  | 0x02 => some (.mbc1, { ram := true })
  | 0x03 => some (.mbc1, { ram := true, battery := true })
  | 0x05 => some (.mbc2, { ram := true })
  | 0x06 => some (.mbc2, { ram := true, battery := true })
  | 0x08 => some (.plain, { ram := true })
  | 0x09 => some (.plain, { ram := true, battery := true })
  | 0x0F => some (.mbc3, { battery := true, clock := true })
  | 0x10 => some (.mbc3, { ram := true, battery := true, clock := true })
  | 0x11 => some (.mbc3, {})
  | 0x12 => some (.mbc3, { ram := true })
  | 0x13 => some (.mbc3, { ram := true, battery := true })
  | 0x19 => some (.mbc5, {})
  | 0x1A => some (.mbc5, { ram := true })
  | 0x1B => some (.mbc5, { ram := true, battery := true })
  | 0x1C => some (.mbc5, { rumble := true })
  | 0x1D => some (.mbc5, { ram := true, rumble := true })
  | 0x1E => some (.mbc5, { ram := true, battery := true, rumble := true })
  | _ => none

/-- The RAM size of a size code. -/
def ramSizeOfCode? (code : UInt8) : Option Nat :=
  match code with
  | 0 => some 0
  | 1 => some 0x800
  | 2 => some 0x2000
  | 3 => some 0x8000
  | 4 => some 0x20000
  | 5 => some 0x10000
  | _ => none

/-- The title: the bytes up to the first zero, without those that are no capital, digit or common
sign, and without blanks at the end. -/
def titleOf (rom : Rom) : String :=
  let field := (List.range 16).map fun i => rom.byte (0x134 + i)
  let kept := (field.takeWhile (· != 0)).filter fun b => 0x20 ≤ b && b ≤ 0x5F
  let text := kept.map fun b => Char.ofNat b.toNat
  String.ofList (text.reverse.dropWhile (· == ' ')).reverse

/-- The checksum of the bytes from the title to the version. -/
def checksumOf (rom : Rom) : UInt8 :=
  (List.range 25).foldl (fun sum i => sum - rom.byte (0x134 + i) - 1) 0

/-- The ROM size that the header declares, if the image has it. -/
def readRomSize (rom : Rom) : Except Fault Nat :=
  let code := (rom.byte 0x148).toNat
  if 8 < code then .error (.romSizeMismatch unknownRomSize rom.size)
  else
    let size := 0x8000 <<< code
    if rom.size < size then .error (.romSizeMismatch size rom.size) else .ok size

/-- The RAM size: fixed for MBC2, none without the feature, else from its size code. -/
def readRamSize (controller : Controller) (features : Features) (code : UInt8) :
    Except Fault Nat :=
  if controller = .mbc2 then .ok mbc2RamSize
  else if !features.ram then .ok 0
  else match ramSizeOfCode? code with
    | none => .error (.invalidRamSize code)
    | some size => if maxRamSize < size then .error (.ramTooLarge size) else .ok size

/-- The colour support of its header byte. -/
def colourOf (code : UInt8) : ColourSupport :=
  match code with
  | 0xC0 => .only
  | 0x80 => .compatible
  | _ => .none

/-- Reads the header of an image, or says why the image is no cartridge for this machine. -/
def read (rom : Rom) : Except Fault Header :=
  if rom.size < endOffset then .error (.romTooSmall rom.size)
  else match ofType? (rom.byte 0x147) with
    | none => .error (.unsupportedCartType (rom.byte 0x147))
    | some (controller, features) => do
      let romSize ← readRomSize rom
      let ramSize ← readRamSize controller features (rom.byte 0x149)
      return {
        title := titleOf rom
        cartType := rom.byte 0x147
        controller := controller
        features := features
        romSize := romSize
        ramSize := ramSize
        colour := colourOf (rom.byte 0x143)
        sgb := rom.byte 0x146 == 0x03 && rom.byte 0x14B == 0x33
        checksumOk := checksumOf rom == rom.byte 0x14D }

/-- The console the cartridge is meant for. -/
def preferredModel (h : Header) : Model :=
  match h.colour with
  | .only => .gbc
  | .compatible => .gbc
  | .none => if h.sgb then .sgb else .dmg

/-- The console to run the cartridge on: the requested one if it can, else the preferred one. -/
def selectModel (h : Header) (requested : Option Model) : Except Fault Model :=
  match requested with
  | none => .ok h.preferredModel
  | some model =>
    match h.colour, model with
    | .only, .dmg => .error (.modelMismatch .dmg .gbc)
    | .only, .sgb => .error (.modelMismatch .sgb .gbc)
    | .none, .gbc => .error (.modelMismatch .gbc .dmg)
    | _, model => .ok model

end Header

end DotMatrix
