import DotMatrix.Hex
import DotMatrix.Model
import DotMatrix.Word

/-!
# Processor registers

Eight byte registers that pair up into words, the program counter and the stack pointer, and the
four switches around interrupts: the master enable, its delayed form after EI, the halted state,
and the fault of HALT that reads the next byte twice.
-/

namespace DotMatrix

/-- The processor's state. -/
structure Cpu where
  a : UInt8 := 0
  f : UInt8 := 0
  b : UInt8 := 0
  c : UInt8 := 0
  d : UInt8 := 0
  e : UInt8 := 0
  h : UInt8 := 0
  l : UInt8 := 0
  pc : UInt16 := 0
  sp : UInt16 := 0
  ime : Bool := false
  halted : Bool := false
  imePending : Bool := false
  haltBug : Bool := false
  deriving DecidableEq, Repr, Inhabited

/-- A register or pair of registers by name. -/
inductive Register
  | a
  | f
  | b
  | c
  | d
  | e
  | h
  | l
  | af
  | bc
  | de
  | hl
  | sp
  | pc
  deriving DecidableEq, Repr

namespace Flag

/-- The result was zero. -/
def zero : UInt8 := 0x80

/-- The operation was a subtraction. -/
def subtract : UInt8 := 0x40

/-- There was a carry out of bit 3, or a borrow into it. -/
def half : UInt8 := 0x20

/-- There was a carry out of the top bit, or a borrow into it. -/
def carry : UInt8 := 0x10

/-- The flag `mask` if `cond` holds, else no flag. -/
def when (cond : Bool) (mask : UInt8) : UInt8 :=
  if cond then mask else 0

end Flag

namespace Cpu

/-- A and the flags as a word. -/
def af (r : Cpu) : UInt16 := word r.a r.f

/-- B and C as a word. -/
def bc (r : Cpu) : UInt16 := word r.b r.c

/-- D and E as a word. -/
def de (r : Cpu) : UInt16 := word r.d r.e

/-- H and L as a word. -/
def hl (r : Cpu) : UInt16 := word r.h r.l

/-- Sets A and the flags; the lower four bits of the flags stay clear. -/
def setAf (r : Cpu) (w : UInt16) : Cpu :=
  { r with a := highByte w, f := lowByte w &&& 0xF0 }

/-- Sets B and C. -/
def setBc (r : Cpu) (w : UInt16) : Cpu :=
  { r with b := highByte w, c := lowByte w }

/-- Sets D and E. -/
def setDe (r : Cpu) (w : UInt16) : Cpu :=
  { r with d := highByte w, e := lowByte w }

/-- Sets H and L. -/
def setHl (r : Cpu) (w : UInt16) : Cpu :=
  { r with h := highByte w, l := lowByte w }

/-- The value of a register. -/
def get (r : Cpu) : Register → UInt16
  | .a => r.a.toUInt16
  | .f => r.f.toUInt16
  | .b => r.b.toUInt16
  | .c => r.c.toUInt16
  | .d => r.d.toUInt16
  | .e => r.e.toUInt16
  | .h => r.h.toUInt16
  | .l => r.l.toUInt16
  | .af => r.af
  | .bc => r.bc
  | .de => r.de
  | .hl => r.hl
  | .sp => r.sp
  | .pc => r.pc

/-- Sets a register: a byte register takes the low byte, and F only the upper half of it. -/
def set (r : Cpu) (name : Register) (w : UInt16) : Cpu :=
  match name with
  | .a => { r with a := lowByte w }
  | .f => { r with f := lowByte w &&& 0xF0 }
  | .b => { r with b := lowByte w }
  | .c => { r with c := lowByte w }
  | .d => { r with d := lowByte w }
  | .e => { r with e := lowByte w }
  | .h => { r with h := lowByte w }
  | .l => { r with l := lowByte w }
  | .af => r.setAf w
  | .bc => r.setBc w
  | .de => r.setDe w
  | .hl => r.setHl w
  | .sp => { r with sp := w }
  | .pc => { r with pc := w }

/-- Whether a flag is set. -/
def flag (r : Cpu) (mask : UInt8) : Bool :=
  hasBit r.f mask

/-- The registers that the boot program leaves behind. -/
def boot (model : Model) : Cpu :=
  let start : Cpu := { pc := 0x0100, sp := 0xFFFE }
  match model with
  | .dmg => (((start.setAf 0x01B0).setBc 0x0013).setDe 0x00D8).setHl 0x014D
  | .sgb => (((start.setAf 0x0100).setBc 0x0014).setDe 0x0000).setHl 0xC060
  | .gbc => (((start.setAf 0x1180).setBc 0x0000).setDe 0xFF56).setHl 0x000D

/-- The registers on one line. -/
def describe (r : Cpu) : String :=
  "AF:" ++ upperHex 4 r.af.toNat ++ " BC:" ++ upperHex 4 r.bc.toNat ++
    " DE:" ++ upperHex 4 r.de.toNat ++ " HL:" ++ upperHex 4 r.hl.toNat ++
    " PC:" ++ upperHex 4 r.pc.toNat ++ " SP:" ++ upperHex 4 r.sp.toNat ++
    " IME:" ++ (if r.ime then "1" else "0")

end Cpu

end DotMatrix
