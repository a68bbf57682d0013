/-!
# Bytes and words

The machine stores bytes (`UInt8`) and addresses them with words (`UInt16`). `word` joins two
bytes, `highByte` and `lowByte` take a word apart, `hasBit` tests a byte against a mask, and
`displace` moves a word by a signed byte. Counts of cycles have 32 bits; a device that counts down
takes them as numbers with a sign.
-/

namespace DotMatrix

/-- The word with high byte `hi` and low byte `lo`. -/
def word (hi lo : UInt8) : UInt16 :=
  hi.toUInt16 <<< 8 ||| lo.toUInt16

/-- The upper eight bits of a word. -/
def highByte (w : UInt16) : UInt8 :=
  (w >>> 8).toUInt8

/-- The lower eight bits of a word. -/
def lowByte (w : UInt16) : UInt8 :=
  w.toUInt8

/-- Whether `b` has at least one of the bits of `mask`. -/
def hasBit (b mask : UInt8) : Bool :=
  b &&& mask != 0

theorem or_and (a b mask : UInt8) : (a ||| b) &&& mask = a &&& mask ||| b &&& mask := by
  apply UInt8.toNat_inj.mp
  simp only [UInt8.toNat_and, UInt8.toNat_or, Nat.and_or_distrib_right]

/-- A byte made of two has the bits of both. -/
theorem hasBit_or (a b mask : UInt8) : hasBit (a ||| b) mask = (hasBit a mask || hasBit b mask) := by
  simp only [hasBit, or_and, bne, ← Bool.not_and]
  congr 1
  rw [Bool.eq_iff_iff]
  simp only [beq_iff_eq, UInt8.or_eq_zero_iff, Bool.and_eq_true]

/-- Counting up a byte that is not full. -/
theorem toNat_add_one {b : UInt8} (h : b.toNat < 255) : (b + 1).toNat = b.toNat + 1 := by
  rw [UInt8.toNat_add]
  exact Nat.mod_eq_of_lt (Nat.succ_lt_succ h)

/-- A count of 32 bits as a number in two's complement. -/
def signedCount (n : Nat) : Int :=
  if n < 0x80000000 then n else n - 0x100000000

/-- The word `w` moved by `d` read as a two's complement number. -/
def displace (w : UInt16) (d : UInt8) : UInt16 :=
  if d < 0x80 then w + d.toUInt16 else w + (d.toUInt16 ||| 0xFF00)

end DotMatrix
