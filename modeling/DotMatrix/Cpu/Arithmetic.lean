import DotMatrix.Cpu.Registers

/-!
# Arithmetic

The operations of the processor on bytes, each giving a result and the flags. `adjust` turns the
binary sum or difference of two decimal bytes into the decimal one.
-/

namespace DotMatrix

/-- The result of an operation and the flags it leaves. -/
structure Flagged where
  value : UInt8
  flags : UInt8
  deriving DecidableEq, Repr

namespace Arithmetic

/-- The zero flag of a result. -/
def zeroFlag (val : UInt8) : UInt8 :=
  Flag.when (val == 0) Flag.zero

/-- The carry flag as a bit. -/
def carryBit (carry : Bool) : UInt8 :=
  if carry then 1 else 0

/-- The sum of two bytes and a carry. -/
def add (a b : UInt8) (carry : Bool) : Flagged :=
  let c := carryBit carry
  let sum := a + b + c
  { value := sum
    flags := zeroFlag sum |||
      Flag.when (0x0F < (a &&& 0x0F) + (b &&& 0x0F) + c) Flag.half |||
      Flag.when (0xFF < a.toUInt16 + b.toUInt16 + c.toUInt16) Flag.carry }

/-- The difference of two bytes less a borrow. -/
def sub (a b : UInt8) (borrow : Bool) : Flagged :=
  let c := carryBit borrow
  let difference := a - b - c
  { value := difference
    flags := zeroFlag difference ||| Flag.subtract |||
      Flag.when (a &&& 0x0F < (b &&& 0x0F) + c) Flag.half |||
      Flag.when (a.toUInt16 < b.toUInt16 + c.toUInt16) Flag.carry }

/-- The decimal correction after an addition. -/
def adjustSum (a f : UInt8) : Flagged :=
  let carry := hasBit f Flag.carry || 0x99 < a
  let high := if carry then a + 0x60 else a
  let value := if hasBit f Flag.half || 0x09 < high &&& 0x0F then high + 0x06 else high
  { value := value, flags := zeroFlag value ||| Flag.when carry Flag.carry }

/-- The decimal correction after a subtraction. -/
def adjustDifference (a f : UInt8) : Flagged :=
  let carry := hasBit f Flag.carry
  let high := if carry then a - 0x60 else a
  let value := if hasBit f Flag.half then high - 0x06 else high
  { value := value, flags := Flag.subtract ||| zeroFlag value ||| Flag.when carry Flag.carry }

/-- The decimal correction of `a` after the operation that left the flags `f`. -/
def adjust (a f : UInt8) : Flagged :=
  if hasBit f Flag.subtract then adjustDifference a f else adjustSum a f

/-- A byte one higher; the carry flag of `f` is kept. -/
def increase (val f : UInt8) : Flagged :=
  let value := val + 1
  { value := value
    flags := (f &&& Flag.carry) ||| zeroFlag value |||
      Flag.when (val &&& 0x0F == 0x0F) Flag.half }

/-- A byte one lower; the carry flag of `f` is kept. -/
def decrease (val f : UInt8) : Flagged :=
  let value := val - 1
  { value := value
    flags := (f &&& Flag.carry) ||| Flag.subtract ||| zeroFlag value |||
      Flag.when (val &&& 0x0F == 0) Flag.half }

/-- A result with the carry flag set if `out`, the bit shifted out, was set. -/
def shifted (value : UInt8) (out : Bool) : Flagged :=
  { value := value, flags := zeroFlag value ||| Flag.when out Flag.carry }

/-- The flags of the sum of two words: carries out of bits 11 and 15. The zero flag is kept. -/
def addWordFlags (a b : UInt16) (f : UInt8) : UInt8 :=
  (f &&& Flag.zero) |||
    Flag.when (0x0FFF < (a &&& 0x0FFF) + (b &&& 0x0FFF)) Flag.half |||
    Flag.when (a + b < a) Flag.carry

/-- The flags of a word moved by a byte: the carries out of bits 3 and 7 of the low byte. -/
def displaceFlags (w : UInt16) (d : UInt8) : UInt8 :=
  Flag.when (0x0F < (w &&& 0x0F) + (d.toUInt16 &&& 0x0F)) Flag.half |||
    Flag.when (0xFF < (w &&& 0xFF) + d.toUInt16) Flag.carry

end Arithmetic

end DotMatrix
