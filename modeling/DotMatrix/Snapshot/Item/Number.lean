/-!
# Bytes of numbers

A number of fixed width is written with its most significant byte first. A number with a sign is
written as its two's complement.
-/

namespace DotMatrix

namespace Item

/-- How many numbers have a form in `width` bytes. -/
def formsOf (width : Nat) : Nat :=
  Nat.pow 256 width

/-- The lowest `width` bytes of a number, most significant first. -/
def bigEndian : Nat → Nat → List UInt8
  | 0, _ => []
  | width + 1, n => (n / formsOf width).toUInt8 :: bigEndian width n

/-- Reads `width` bytes, most significant first, behind those that make up `high`. -/
def readBigEndian : Nat → Nat → List UInt8 → Option (Nat × List UInt8)
  | 0, high, s => some (high, s)
  | _ + 1, _, [] => none
  | width + 1, high, b :: s => readBigEndian width (high * 256 + b.toNat) s

/-- The two's complement form of a number in `width` bytes. -/
def complement (width : Nat) (n : Int) : Nat :=
  (n % formsOf width).toNat

/-- The number that a two's complement form in `width` bytes stands for. -/
def signed (width n : Nat) : Int :=
  if 2 * n < formsOf width then n else (n : Int) - formsOf width

/-- Takes `n` bytes, if there are so many. -/
def takeExactly (n : Nat) (s : List UInt8) : Option (List UInt8 × List UInt8) :=
  let taken := s.take n
  if taken.length = n then some (taken, s.drop n) else none

end Item

end DotMatrix
