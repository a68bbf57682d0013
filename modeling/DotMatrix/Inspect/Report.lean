import DotMatrix.Hex

/-!
# Reports

What the parts of a machine show of themselves: a tree of named values. Memories are shown as
hexadecimal text, large ones by a 64-bit digest only.
-/

namespace DotMatrix

/-- What is shown of a value. -/
inductive Report
  | nothing
  | flag (b : Bool)
  | number (n : Int)
  | text (s : String)
  | list (items : List Report)
  | fields (items : List (String × Report))
  deriving Inhabited

instance : Coe Bool Report := ⟨.flag⟩
instance : Coe Int Report := ⟨.number⟩
instance : Coe Nat Report := ⟨fun n => .number n⟩
instance : Coe UInt8 Report := ⟨fun b => .number b.toNat⟩
instance : Coe UInt16 Report := ⟨fun w => .number w.toNat⟩
instance : Coe UInt32 Report := ⟨fun w => .number w.toNat⟩
instance : Coe String Report := ⟨.text⟩

/-! ## Digests -/

namespace Digest

/-- The digest of no bytes. -/
def start : UInt64 := 0xCBF29CE484222325

/-- The digest of one byte more. -/
def add (digest : UInt64) (b : UInt8) : UInt64 :=
  (digest ^^^ b.toUInt64) * 0x100000001B3

/-- The digest of some bytes. -/
def ofBytes (bytes : Array UInt8) : UInt64 :=
  bytes.foldl add start

/-- A digest as text. -/
def text (digest : UInt64) : String :=
  lowerHex 16 digest.toNat

end Digest

namespace Report

/-- Bytes, two digits each. -/
def hex (bytes : Array UInt8) : Report :=
  .text (hexOfBytes bytes)

/-- Bytes by their digest. -/
def digest (bytes : Array UInt8) : Report :=
  .text (Digest.text (Digest.ofBytes bytes))

/-- The bytes that a summary shows at either end. -/
def shownBytes : Nat := 16

/-- Bytes by their number, their digest and their two ends. -/
def summary (bytes : Array UInt8) : Report :=
  .fields [("len", bytes.size), ("fnv", digest bytes), ("head", hex (bytes.extract 0 shownBytes)),
    ("tail", hex (bytes.extract (bytes.size - shownBytes)))]

/-- Something that may be missing. -/
def optional {α : Type} (f : α → Report) : Option α → Report
  | none => .nothing
  | some a => f a

end Report

end DotMatrix
