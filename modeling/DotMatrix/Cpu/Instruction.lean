import DotMatrix.Cpu.Arithmetic

/-!
# Instructions

What an opcode means (`Instruction.decode`, `Extended.decode`) and what it costs. Costs are in
processor cycles; a conditional jump that is taken costs `takenCost` more.
-/

namespace DotMatrix

/-- A byte that an instruction works on: a register, or memory at HL. -/
inductive Operand
  | b
  | c
  | d
  | e
  | h
  | l
  | atHl
  | a
  deriving DecidableEq, Repr

/-- A word register of loads and arithmetic. -/
inductive Pair
  | bc
  | de
  | hl
  | sp
  deriving DecidableEq, Repr

/-- A word register of the stack instructions. -/
inductive StackPair
  | bc
  | de
  | hl
  | af
  deriving DecidableEq, Repr

/-- An address in registers; HL may move on after the access. -/
inductive Pointer
  | bc
  | de
  | hlUp
  | hlDown
  deriving DecidableEq, Repr

/-- A condition on the flags. -/
inductive Condition
  | nonzero
  | zero
  | noCarry
  | carry
  deriving DecidableEq, Repr

/-- An operation on A and another byte. -/
inductive Operation
  | add
  | adc
  | sub
  | sbc
  | and
  | xor
  | or
  | cp
  deriving DecidableEq, Repr

/-- A rotation or shift. -/
inductive Rotation
  | rlc
  | rrc
  | rl
  | rr
  | sla
  | sra
  | swap
  | srl
  deriving DecidableEq, Repr

/-- An instruction behind the prefix `CB`. -/
inductive Extended
  | rotate (kind : Rotation) (operand : Operand)
  | test (bit : UInt8) (operand : Operand)
  | reset (bit : UInt8) (operand : Operand)
  | set (bit : UInt8) (operand : Operand)
  deriving DecidableEq, Repr

/-- An instruction. -/
inductive Instruction
  | nop
  | loadWord (pair : Pair)
  | storeA (pointer : Pointer)
  | loadA (pointer : Pointer)
  | increaseWord (pair : Pair)
  | decreaseWord (pair : Pair)
  | increase (operand : Operand)
  | decrease (operand : Operand)
  | loadByte (operand : Operand)
  | rotateA (kind : Rotation)
  | storeSp
  | addWord (pair : Pair)
  | stop
  | jumpNear
  | jumpNearIf (condition : Condition)
  | adjustA
  | complementA
  | setCarry
  | flipCarry
  | halt
  | copy (target source : Operand)
  | compute (operation : Operation) (operand : Operand)
  | computeByte (operation : Operation)
  | ret
  | retIf (condition : Condition)
  | retEnable
  | jump
  | jumpIf (condition : Condition)
  | jumpHl
  | call
  | callIf (condition : Condition)
  | restart (target : UInt8)
  | push (pair : StackPair)
  | pop (pair : StackPair)
  | extended
  | storeHigh
  | loadHigh
  | storeHighC
  | loadHighC
  | storeAbsolute
  | loadAbsolute
  | moveSp
  | loadHlSp
  | loadSpHl
  | disableInterrupts
  | enableInterrupts
  | unknown (opcode : UInt8)
  deriving DecidableEq, Repr

/-- The operand with a three-bit number. -/
def Operand.ofIndex (i : UInt8) : Operand :=
  match i with
  | 0 => .b
  | 1 => .c
  | 2 => .d
  | 3 => .e
  | 4 => .h
  | 5 => .l
  | 6 => .atHl
  | _ => .a

/-- The pair with a two-bit number. -/
def Pair.ofIndex (i : UInt8) : Pair :=
  match i with
  | 0 => .bc
  | 1 => .de
  | 2 => .hl
  | _ => .sp

/-- The stack pair with a two-bit number. -/
def StackPair.ofIndex (i : UInt8) : StackPair :=
  match i with
  | 0 => .bc
  | 1 => .de
  | 2 => .hl
  | _ => .af

/-- The pointer with a two-bit number. -/
def Pointer.ofIndex (i : UInt8) : Pointer :=
  match i with
  | 0 => .bc
  | 1 => .de
  | 2 => .hlUp
  | _ => .hlDown

/-- The condition with a two-bit number. -/
def Condition.ofIndex (i : UInt8) : Condition :=
  match i with
  | 0 => .nonzero
  | 1 => .zero
  | 2 => .noCarry
  | _ => .carry

/-- The operation with a three-bit number. -/
def Operation.ofIndex (i : UInt8) : Operation :=
  match i with
  | 0 => .add
  | 1 => .adc
  | 2 => .sub
  | 3 => .sbc
  | 4 => .and
  | 5 => .xor
  | 6 => .or
  | _ => .cp

/-- The rotation with a three-bit number. -/
def Rotation.ofIndex (i : UInt8) : Rotation :=
  match i with
  | 0 => .rlc
  | 1 => .rrc
  | 2 => .rl
  | 3 => .rr
  | 4 => .sla
  | 5 => .sra
  | 6 => .swap
  | _ => .srl

namespace Extended

/-- The instruction of a byte behind the prefix. -/
def decode (opcode : UInt8) : Extended :=
  let operand := Operand.ofIndex (opcode &&& 0x07)
  let bit := (opcode >>> 3) &&& 0x07
  match opcode >>> 6 with
  | 0 => .rotate (Rotation.ofIndex bit) operand
  | 1 => .test bit operand
  | 2 => .reset bit operand
  | _ => .set bit operand

/-- The cost of the instruction with its prefix: memory costs eight more, four for a mere test. -/
def cost : Extended → Nat
  | .test _ .atHl => 12
  | .rotate _ .atHl => 16
  | .reset _ .atHl => 16
  | .set _ .atHl => 16
  | _ => 8

end Extended

namespace Instruction

/-- The instructions below `40`, by column and row. -/
def decodeLow (opcode : UInt8) : Instruction :=
  let row := opcode >>> 4
  let operand := Operand.ofIndex (opcode >>> 3)
  match opcode &&& 0x0F with
  | 0x0 =>
    match row with
    | 0 => .nop
    | 1 => .stop
    | 2 => .jumpNearIf .nonzero
    | _ => .jumpNearIf .noCarry
  | 0x1 => .loadWord (Pair.ofIndex row)
  | 0x2 => .storeA (Pointer.ofIndex row)
  | 0x3 => .increaseWord (Pair.ofIndex row)
  | 0x4 => .increase operand
  | 0x5 => .decrease operand
  | 0x6 => .loadByte operand
  | 0x7 =>
    match row with
    | 0 => .rotateA .rlc
    | 1 => .rotateA .rl
    | 2 => .adjustA
    | _ => .setCarry
  | 0x8 =>
    match row with
    | 0 => .storeSp
    | 1 => .jumpNear
    | 2 => .jumpNearIf .zero
    | _ => .jumpNearIf .carry
  | 0x9 => .addWord (Pair.ofIndex row)
  | 0xA => .loadA (Pointer.ofIndex row)
  | 0xB => .decreaseWord (Pair.ofIndex row)
  | 0xC => .increase operand
  | 0xD => .decrease operand
  | 0xE => .loadByte operand
  | _ =>
    match row with
    | 0 => .rotateA .rrc
    | 1 => .rotateA .rr
    | 2 => .complementA
    | _ => .flipCarry

/-- The instructions from `C0` on. -/
def decodeHigh (opcode : UInt8) : Instruction :=
  match opcode with
  | 0xC0 => .retIf .nonzero
  | 0xC2 => .jumpIf .nonzero
  | 0xC3 => .jump
  | 0xC4 => .callIf .nonzero
  | 0xC8 => .retIf .zero
  | 0xC9 => .ret
  | 0xCA => .jumpIf .zero
  | 0xCB => .extended
  | 0xCC => .callIf .zero
  | 0xCD => .call
  | 0xD0 => .retIf .noCarry
  | 0xD2 => .jumpIf .noCarry
  | 0xD4 => .callIf .noCarry
  | 0xD8 => .retIf .carry
  | 0xD9 => .retEnable
  | 0xDA => .jumpIf .carry
  | 0xDC => .callIf .carry
  | 0xE0 => .storeHigh
  | 0xE2 => .storeHighC
  | 0xE8 => .moveSp
  | 0xE9 => .jumpHl
  | 0xEA => .storeAbsolute
  | 0xF0 => .loadHigh
  | 0xF2 => .loadHighC
  | 0xF3 => .disableInterrupts
  | 0xF8 => .loadHlSp
  | 0xF9 => .loadSpHl
  | 0xFA => .loadAbsolute
  | 0xFB => .enableInterrupts
  | opcode =>
    let pair := StackPair.ofIndex ((opcode >>> 4) &&& 0x03)
    match opcode &&& 0x0F with
    | 0x1 => .pop pair
    | 0x5 => .push pair
    | 0x6 => .computeByte (Operation.ofIndex ((opcode >>> 3) &&& 0x07))
    | 0xE => .computeByte (Operation.ofIndex ((opcode >>> 3) &&& 0x07))
    | 0x7 => .restart (opcode &&& 0x38)
    | 0xF => .restart (opcode &&& 0x38)
    | _ => .unknown opcode

/-- The instruction of an opcode. -/
def decode (opcode : UInt8) : Instruction :=
  if opcode < 0x40 then decodeLow opcode
  else if opcode < 0x80 then
    if opcode == 0x76 then .halt
    else .copy (Operand.ofIndex ((opcode >>> 3) &&& 0x07)) (Operand.ofIndex (opcode &&& 0x07))
  else if opcode < 0xC0 then
    .compute (Operation.ofIndex ((opcode >>> 3) &&& 0x07)) (Operand.ofIndex (opcode &&& 0x07))
  else decodeHigh opcode

/-- The cost of an access to an operand beyond the cost for a register. -/
def memoryCost : Operand → Nat
  | .atHl => 4
  | _ => 0

/-- The cost of an instruction, without what a taken condition and a prefixed instruction add. -/
def cost : Instruction → Nat
  | nop => 4
  | loadWord _ => 12
  | storeA _ => 8
  | loadA _ => 8
  | increaseWord _ => 8
  | decreaseWord _ => 8
  | increase operand => 4 + 2 * memoryCost operand
  | decrease operand => 4 + 2 * memoryCost operand
  | loadByte operand => 8 + memoryCost operand
  | rotateA _ => 4
  | storeSp => 20
  | addWord _ => 8
  | stop => 4
  | jumpNear => 12
  | jumpNearIf _ => 8
  | adjustA => 4
  | complementA => 4
  | setCarry => 4
  | flipCarry => 4
  | halt => 4
  | copy target source => 4 + memoryCost target + memoryCost source
  | compute _ operand => 4 + memoryCost operand
  | computeByte _ => 8
  | ret => 16
  | retIf _ => 8
  | retEnable => 16
  | jump => 16
  | jumpIf _ => 12
  | jumpHl => 4
  | call => 24
  | callIf _ => 12
  | restart _ => 16
  | push _ => 16
  | pop _ => 12
  | extended => 0
  | storeHigh => 12
  | loadHigh => 12
  | storeHighC => 8
  | loadHighC => 8
  | storeAbsolute => 16
  | loadAbsolute => 16
  | moveSp => 16
  | loadHlSp => 12
  | loadSpHl => 8
  | disableInterrupts => 4
  | enableInterrupts => 4
  | unknown _ => 4

/-- The condition of a conditional instruction. -/
def condition? : Instruction → Option Condition
  | jumpNearIf condition => some condition
  | retIf condition => some condition
  | jumpIf condition => some condition
  | callIf condition => some condition
  | _ => none

/-- What a taken condition adds to the cost. -/
def takenCost : Instruction → Nat
  | jumpNearIf _ => 4
  | jumpIf _ => 4
  | retIf _ => 12
  | callIf _ => 12
  | _ => 0

end Instruction

end DotMatrix
