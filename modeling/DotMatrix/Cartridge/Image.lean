import DotMatrix.Cartridge.Header

/-!
# ROM images

How an image is put together: banks that begin with their own number, a header with its checksum,
and a program where the header's entry jumps to.
-/

namespace DotMatrix

/-- What an image is to hold. Patches go over everything else, in order. -/
structure ImagePlan where
  size : Nat := 0x8000
  fill : UInt8 := 0
  title : Array UInt8 := #[]
  colour : Option UInt8 := none
  sgb : Bool := false
  cartType : UInt8 := 0
  romCode : UInt8 := 0
  ramCode : UInt8 := 0
  /-- The checksum of the header, if it is not to be the right one. -/
  checksum : Option UInt8 := none
  program : Array UInt8 := #[]
  patches : List (Nat × Array UInt8) := []
  deriving DecidableEq, Repr, Inhabited

namespace Rom

/-- Sets the byte at `i`; nothing happens behind the end. -/
def setByte (rom : Rom) (i : Nat) (b : UInt8) : Rom :=
  if h : i < rom.size then rom.set i b h else rom

/-- Writes bytes from `i` on. -/
def patch (rom : Rom) (i : Nat) (bytes : Array UInt8) : Rom :=
  (bytes.foldl (fun (r, i) b => (setByte r i b, i + 1)) (rom, i)).1

/-- Writes bytes at several places, in order. -/
def patchAll (rom : Rom) (patches : List (Nat × Array UInt8)) : Rom :=
  patches.foldl (fun r p => r.patch p.1 p.2) rom

/-- Bytes in a bank. -/
def bankSize : Nat := 0x4000

/-- Writes the numbers of the banks from `n` down to 1 to where they begin. -/
def numberBanks (rom : Rom) : Nat → Rom
  | 0 => rom
  | n + 1 =>
    let number := #[(n + 1).toUInt8, ((n + 1) / 256).toUInt8]
    numberBanks (rom.patch ((n + 1) * bankSize) number) n

end Rom

namespace ImagePlan

/-- The program starts behind the header, where the entry jumps to. -/
def entry : Array UInt8 := #[0x00, 0xC3, 0x50, 0x01]

/-- The banks without header and program. -/
def banks (p : ImagePlan) : Rom :=
  let rom : Rom := ⟨Array.replicate (max p.size Rom.bankSize) p.fill⟩
  rom.numberBanks (rom.size / Rom.bankSize - 1)

/-- The marks of a cartridge that knows the SGB. -/
def sgbMarks (p : ImagePlan) : List (Nat × Array UInt8) :=
  if p.sgb then [(0x146, #[0x03]), (0x14B, #[0x33])] else []

/-- The fields of the header, without its checksum. -/
def header (p : ImagePlan) : List (Nat × Array UInt8) :=
  [(0x100, Array.replicate 0x50 0), (0x100, entry), (0x134, p.title)] ++
    p.colour.toList.map (fun b => (0x143, #[b])) ++ p.sgbMarks ++
    [(0x147, #[p.cartType, p.romCode, p.ramCode])]

/-- The image. -/
def build (p : ImagePlan) : Rom :=
  let rom := p.banks.patchAll p.header
  let rom := rom.setByte 0x14D (p.checksum.getD (Header.checksumOf rom))
  ((rom.patch 0x150 p.program).patchAll p.patches).extract 0 p.size

end ImagePlan

end DotMatrix
