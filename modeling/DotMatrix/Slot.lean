/-!
# Slots of the address space

The lower 64 KiB of the bus is seen as sixteen slots of 4 KiB. A slot names the store behind it
and how an address selects a byte there: `base + (addr & mask)`.
-/

namespace DotMatrix

/-- The store behind a slot. -/
inductive Region
  | rom
  | cartRam
  /-- A register of the cartridge clock, seen at every address of the slot. -/
  | clock (register : UInt8)
  | vram
  | wram
  | empty
  deriving DecidableEq, Repr, Inhabited

/-- One slot of the address space. -/
structure Slot where
  region : Region
  base : Nat
  mask : UInt16
  deriving DecidableEq, Repr

namespace Slot

/-- A slot with nothing behind it. -/
def empty : Slot := ⟨.empty, 0, 0⟩

instance : Inhabited Slot := ⟨empty⟩

/-- The place in the store that an address of the slot selects. -/
def offset (s : Slot) (addr : UInt16) : Nat :=
  s.base + (addr &&& s.mask).toNat

end Slot

end DotMatrix
