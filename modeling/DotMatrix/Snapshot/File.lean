import DotMatrix.Snapshot.Item.Reader
import DotMatrix.Snapshot.Item.Writer
import DotMatrix.Snapshot.Machine

/-!
# Snapshot files

A snapshot file is a mark, the version of the format, and the machine. A machine takes over a
snapshot of its own model with its own cartridge, or none of it: `restore` either gives the machine
of the snapshot, with the ROM and the host's side of the present one, or the reason why not.
-/

namespace DotMatrix

namespace Snapshot

/-- The mark that every snapshot starts with. -/
def magic : List UInt8 := [0x54, 0x47, 0x42, 0x53]

/-- The version of the format. -/
def version : Nat := 1

/-- The version as it stands in a file, least byte first. -/
def versionBytes : List UInt8 := [0x01, 0x00, 0x00, 0x00]

/-- The snapshot of a machine. -/
def encode (m : Core) : List UInt8 :=
  magic ++ versionBytes ++ (Codec.core.write m).write

/-- The machine behind the header of a snapshot, or what is wrong with the header. -/
def body : List UInt8 → Except Fault (List UInt8)
  | m0 :: m1 :: m2 :: m3 :: v0 :: v1 :: v2 :: v3 :: rest =>
    let found := v0.toNat + 0x100 * v1.toNat + 0x10000 * v2.toNat + 0x1000000 * v3.toNat
    if [m0, m1, m2, m3] ≠ magic then .error .badStateHeader
    else if found ≠ version then .error (.stateVersion found version)
    else .ok rest
  | _ => .error .badStateHeader

/-- The machine that the first item of some bytes shows; bytes behind it do not matter. -/
def machine? (s : List UInt8) : Option Core := do
  let (i, _) ← Item.read s
  Codec.core.read i

/-- The machine of a snapshot. -/
def decode (data : List UInt8) : Except Fault Core := do
  match machine? (← body data) with
  | some m => return m
  | none => .error (.stateDecode .malformed)

/-- Whether a saved cartridge is the live one at another time. -/
def sameCartridge (live saved : Cartridge) : Bool :=
  saved.cartType == live.cartType && saved.romSize == live.romSize &&
    saved.ram.size == Header.maxRamSize

/-- The saved cartridge with the live ROM. -/
def joinCartridge (live saved : Option Cartridge) : Except Fault (Option Cartridge) :=
  match live, saved with
  | some live, some saved =>
    if sameCartridge live saved then .ok (some { saved with rom := live.rom })
    else .error .stateCartMismatch
  | none, none => .ok none
  | _, _ => .error .stateCartMismatch

/-- Whether the memories of a bus have their sizes. -/
def wholeMemories (b : Bus) : Bool :=
  b.wram.size == Bus.wramSize && b.video.vram.size == Video.vramSize

/-- The saved bus with the ROM and the host's side of the live one. -/
def joinBus (live saved : Bus) : Except Fault Bus :=
  if saved.model ≠ live.model then .error (.stateModelMismatch saved.model live.model)
  else if !wholeMemories saved then .error (.stateDecode .wrongBlockSize)
  else do
    let cart ← joinCartridge live.cart saved.cart
    return ({ saved with cart := cart }.adoptHost live).remap

/-- The machine taken back to a snapshot. -/
def restore (m : Core) (data : List UInt8) : Except Fault Core := do
  let saved ← decode data
  let bus ← joinBus m.bus saved.bus
  return { cpu := saved.cpu, bus := bus.report (.stateRestored saved.cpu.pc) }

end Snapshot

end DotMatrix
