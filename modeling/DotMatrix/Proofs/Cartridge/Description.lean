import DotMatrix.Proofs.Bus.Slots

/-!
# What a header says of its cartridge

The header of an image fixes the type of a cartridge, its controller and features, the sizes of ROM
and RAM, and how many banks there are of each. Two things follow from the rest: the type decides
controller and features, and the sizes decide the numbers of banks.

Results:
* `Coherent.romBanks_eq`, `Coherent.ramBanks_eq`: the sizes decide the numbers of banks.
* `Coherent.description_iff`: so one cartridge at two times is described in the same way exactly
  when its RAM has the same size.
* `Coherent.banksWithin_iff`: the ROM banks that a cartridge has selected lie in its ROM.
-/

namespace DotMatrix

/-- What a header says of the cartridge behind it. -/
structure Description where
  cartType : UInt8
  controller : Controller
  features : Features
  romSize : Nat
  ramSize : Nat
  romBanks : UInt16
  ramBanks : UInt8
  deriving DecidableEq, Repr

namespace Header

/-- The description of a header, as its cartridge starts with it. -/
def description (h : Header) : Description :=
  { cartType := h.cartType
    controller := h.controller
    features := h.features
    romSize := h.romSize
    ramSize := h.ramSize
    romBanks := (h.romSize / 0x4000).toUInt16
    ramBanks := (max (h.ramSize / 0x2000) 1).toUInt8 }

end Header

namespace Cartridge

/-- The description that a cartridge carries with it. -/
def description (c : Cartridge) : Description :=
  { cartType := c.cartType
    controller := c.controller
    features := c.features
    romSize := c.romSize
    ramSize := c.ramSize
    romBanks := c.romBanks
    ramBanks := c.ramBanks }

/-- A cartridge starts with what its header says. -/
theorem ofHeader_description (header : Header) (rom : Rom) :
    (ofHeader header rom).description = header.description := rfl

/-- The selected banks exist in the ROM image that is there, and in RAM of the size that a header
declares. -/
structure BanksWithin (c : Cartridge) (header : Header) : Prop where
  rom : (c.romBank.toNat + 1) * 0x4000 ≤ c.rom.size
  low : (c.lowBank.toNat + 1) * 0x4000 ≤ c.rom.size
  ram : c.ramBank < header.description.ramBanks

variable {c d : Cartridge}

/-- The size of the ROM decides the number of its banks. -/
theorem Coherent.romBanks_eq (hc : c.Coherent) (hd : d.Coherent) (size : c.romSize = d.romSize) :
    c.romBanks = d.romBanks := by
  have first := hc.romSize
  have second := hd.romSize
  exact UInt16.toNat_inj.mp (by omega)

/-- The size of the RAM decides the number of its banks. -/
theorem Coherent.ramBanks_eq (hc : c.Coherent) (hd : d.Coherent) (size : c.ramSize = d.ramSize) :
    c.ramBanks = d.ramBanks := by
  have some : 0 < c.ramBanks.toNat := hc.ramBanks_pos
  have some' : 0 < d.ramBanks.toNat := hd.ramBanks_pos
  refine UInt8.toNat_inj.mp ?_
  rcases hc.ramSize with ⟨small, one⟩ | whole <;> rcases hd.ramSize with ⟨small', one'⟩ | whole'
  · rw [one, one']
  · omega
  · omega
  · omega

/-- Of two coherent cartridges that are the same at different times, each is described as the other
is, but for the RAM. -/
theorem Coherent.description_eq (hc : c.Coherent) (hd : d.Coherent)
    (same : c.identity = d.identity) :
    c.description = { d.description with ramSize := c.ramSize, ramBanks := c.ramBanks } := by
  simp only [identity, Prod.mk.injEq] at same
  obtain ⟨-, cartType, controller, romSize, features⟩ := same
  simp only [description, cartType, controller, features, romSize, hc.romBanks_eq hd romSize]

/-- So they have the same description exactly when their RAM has the same size. -/
theorem Coherent.description_iff (hc : c.Coherent) (hd : d.Coherent)
    (same : c.identity = d.identity) : c.description = d.description ↔ c.ramSize = d.ramSize := by
  constructor
  · exact congrArg Description.ramSize
  · intro ramSize
    rw [hc.description_eq hd same, ramSize, hc.ramBanks_eq hd ramSize]
    rfl

/-- A ROM bank that exists lies in the ROM. -/
theorem Coherent.bank_inside (hc : c.Coherent) (whole : c.rom.size = c.romSize) {bank : UInt16}
    (there : bank < c.romBanks) : (bank.toNat + 1) * 0x4000 ≤ c.rom.size := by
  have below : bank.toNat < c.romBanks.toNat := there
  rw [whole, hc.romSize]
  exact Nat.mul_le_mul_right 0x4000 below

/-- The ROM banks that a cartridge has selected lie in its ROM; so all its banks are where a header
has them exactly when the RAM bank is. -/
theorem Coherent.banksWithin_iff (hc : c.Coherent) (whole : c.rom.size = c.romSize)
    (header : Header) : c.BanksWithin header ↔ c.ramBank < header.description.ramBanks :=
  ⟨BanksWithin.ram, fun ram =>
    ⟨hc.bank_inside whole hc.romBank, hc.bank_inside whole (lowBank_lt hc), ram⟩⟩

end Cartridge

end DotMatrix
