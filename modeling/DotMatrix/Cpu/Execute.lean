import DotMatrix.Bus.Clock
import DotMatrix.Cpu.Instruction

/-!
# Executing instructions

A `Core` is the processor with the bus it drives. `Core.execute` carries out one instruction whose
opcode has been fetched: operands that follow the opcode stand at the program counter. The parts
are small functions by kind of instruction, so that what an instruction leaves alone can be read
off.
-/

namespace DotMatrix

/-- The processor and the bus it drives. -/
structure Core where
  cpu : Cpu
  bus : Bus
  deriving Inhabited

namespace Cpu

/-- The word in a pair. -/
def pair (r : Cpu) : Pair → UInt16
  | .bc => r.bc
  | .de => r.de
  | .hl => r.hl
  | .sp => r.sp

/-- Sets a pair. -/
def setPair (r : Cpu) (p : Pair) (w : UInt16) : Cpu :=
  match p with
  | .bc => r.setBc w
  | .de => r.setDe w
  | .hl => r.setHl w
  | .sp => { r with sp := w }

/-- The word in a stack pair. -/
def stackPair (r : Cpu) : StackPair → UInt16
  | .bc => r.bc
  | .de => r.de
  | .hl => r.hl
  | .af => r.af

/-- Sets a stack pair. -/
def setStackPair (r : Cpu) (p : StackPair) (w : UInt16) : Cpu :=
  match p with
  | .bc => r.setBc w
  | .de => r.setDe w
  | .hl => r.setHl w
  | .af => r.setAf w

/-- The address in a pointer. -/
def pointer (r : Cpu) : Pointer → UInt16
  | .bc => r.bc
  | .de => r.de
  | .hlUp => r.hl
  | .hlDown => r.hl

/-- A pointer after the access. -/
def movePointer (r : Cpu) : Pointer → Cpu
  | .bc => r
  | .de => r
  | .hlUp => r.setHl (r.hl + 1)
  | .hlDown => r.setHl (r.hl - 1)

/-- Whether a condition holds. -/
def holds (r : Cpu) : Condition → Bool
  | .nonzero => !r.flag Flag.zero
  | .zero => r.flag Flag.zero
  | .noCarry => !r.flag Flag.carry
  | .carry => r.flag Flag.carry

/-- A and the flags after an operation with another byte. -/
def operate (r : Cpu) (operation : Operation) (val : UInt8) : Flagged :=
  match operation with
  | .add => Arithmetic.add r.a val false
  | .adc => Arithmetic.add r.a val (r.flag Flag.carry)
  | .sub => Arithmetic.sub r.a val false
  | .sbc => Arithmetic.sub r.a val (r.flag Flag.carry)
  | .and =>
    let value := r.a &&& val
    { value := value, flags := Arithmetic.zeroFlag value ||| Flag.half }
  | .xor =>
    let value := r.a ^^^ val
    { value := value, flags := Arithmetic.zeroFlag value }
  | .or =>
    let value := r.a ||| val
    { value := value, flags := Arithmetic.zeroFlag value }
  | .cp => { value := r.a, flags := (Arithmetic.sub r.a val false).flags }

/-- A byte rotated or shifted. -/
def rotate (r : Cpu) (kind : Rotation) (val : UInt8) : Flagged :=
  let top := hasBit val 0x80
  let bottom := hasBit val 0x01
  match kind with
  | .rlc => Arithmetic.shifted (val <<< 1 ||| val >>> 7) top
  | .rrc => Arithmetic.shifted (val >>> 1 ||| val <<< 7) bottom
  | .rl => Arithmetic.shifted (val <<< 1 ||| Flag.when (r.flag Flag.carry) 0x01) top
  | .rr => Arithmetic.shifted (val >>> 1 ||| Flag.when (r.flag Flag.carry) 0x80) bottom
  | .sla => Arithmetic.shifted (val <<< 1) top
  | .sra => Arithmetic.shifted (val >>> 1 ||| (val &&& 0x80)) bottom
  | .swap => Arithmetic.shifted (val <<< 4 ||| val >>> 4) false
  | .srl => Arithmetic.shifted (val >>> 1) bottom

/-- A and the flags replaced by a result. -/
def setResult (r : Cpu) (result : Flagged) : Cpu :=
  { r with a := result.value, f := result.flags }

/-- The effect of the instructions that concern A and the flags alone. -/
def executeOnA (r : Cpu) (instruction : Instruction) : Cpu :=
  match instruction with
  | .rotateA kind =>
    let result := r.rotate kind r.a
    { r with a := result.value, f := result.flags &&& 0x7F }
  | .adjustA => r.setResult (Arithmetic.adjust r.a r.f)
  | .complementA =>
    { r with
      a := ~~~r.a
      f := (r.f &&& (Flag.zero ||| Flag.carry)) ||| Flag.subtract ||| Flag.half }
  | .setCarry => { r with f := (r.f &&& Flag.zero) ||| Flag.carry }
  | .flipCarry => { r with f := (r.f &&& Flag.zero) ||| ((r.f &&& Flag.carry) ^^^ Flag.carry) }
  | _ => r

end Cpu

namespace Core

/-- The byte on the bus at an address. -/
def read (m : Core) (addr : UInt16) : UInt8 :=
  m.bus.read addr

/-- Writes a byte on the bus. -/
def write (m : Core) (addr : UInt16) (val : UInt8) : Core :=
  { m with bus := m.bus.write addr val }

/-- Changes the processor's registers. -/
@[inline]
def onCpu (m : Core) (f : Cpu → Cpu) : Core :=
  { m with cpu := f m.cpu }

/-- The byte at the program counter. -/
def immediate (m : Core) : UInt8 :=
  m.read m.cpu.pc

/-- The word at the program counter, low byte first. -/
def immediateWord (m : Core) : UInt16 :=
  word (m.read (m.cpu.pc + 1)) (m.read m.cpu.pc)

/-- The program counter past `n` bytes. -/
def skip (m : Core) (n : UInt16) : Core :=
  m.onCpu fun r => { r with pc := r.pc + n }

/-- Continues at an address. -/
def goto (m : Core) (addr : UInt16) : Core :=
  m.onCpu fun r => { r with pc := addr }

/-- The byte of an operand. -/
def operand (m : Core) : Operand → UInt8
  | .b => m.cpu.b
  | .c => m.cpu.c
  | .d => m.cpu.d
  | .e => m.cpu.e
  | .h => m.cpu.h
  | .l => m.cpu.l
  | .atHl => m.read m.cpu.hl
  | .a => m.cpu.a

/-- Sets an operand. -/
def setOperand (m : Core) (o : Operand) (val : UInt8) : Core :=
  match o with
  | .b => m.onCpu fun r => { r with b := val }
  | .c => m.onCpu fun r => { r with c := val }
  | .d => m.onCpu fun r => { r with d := val }
  | .e => m.onCpu fun r => { r with e := val }
  | .h => m.onCpu fun r => { r with h := val }
  | .l => m.onCpu fun r => { r with l := val }
  | .atHl =>
    let addr := m.cpu.hl
    m.write addr val
  | .a => m.onCpu fun r => { r with a := val }

/-- Sets the flags. -/
def setFlags (m : Core) (f : UInt8) : Core :=
  m.onCpu fun r => { r with f := f }

/-- Replaces an operand and the flags by a result. -/
def setFlagged (m : Core) (o : Operand) (result : Flagged) : Core :=
  (m.setFlags result.flags).setOperand o result.value

/-! ## The stack -/

/-- Pushes one byte. -/
def pushByte (m : Core) (val : UInt8) : Core :=
  let m := m.onCpu fun r => { r with sp := r.sp - 1 }
  let addr := m.cpu.sp
  m.write addr val

/-- Pushes a word, high byte first. -/
def push (m : Core) (w : UInt16) : Core :=
  (m.pushByte (highByte w)).pushByte (lowByte w)

/-- The word on top of the stack. -/
def top (m : Core) : UInt16 :=
  word (m.read (m.cpu.sp + 1)) (m.read m.cpu.sp)

/-- The stack without its topmost word. -/
def drop (m : Core) : Core :=
  m.onCpu fun r => { r with sp := r.sp + 2 }

/-- Continues at an address, with the program counter on the stack. -/
def callTo (m : Core) (addr : UInt16) : Core :=
  let ret := m.cpu.pc
  (m.push ret).goto addr

/-- Continues at the address on top of the stack. -/
def returnBack (m : Core) : Core :=
  let ret := m.top
  m.drop.goto ret

/-! ## Instructions by kind -/

/-- The fault of the early models: counting an address of object memory spoils it. -/
def spoilAt (m : Core) (p : Pair) : Core :=
  if p != .sp && highByte (m.cpu.pair p) == 0xFE then
    { m with bus := { m.bus with video := m.bus.video.spoilOam } }
  else m

/-- Moves a pair by `d`. -/
def moveWord (m : Core) (p : Pair) (d : UInt16) : Core :=
  (m.spoilAt p).onCpu fun r => r.setPair p (r.pair p + d)

/-- Stores the stack pointer at the address that follows. -/
def storeSp (m : Core) : Core :=
  let addr := m.immediateWord
  let sp := m.cpu.sp
  ((m.skip 2).write addr (lowByte sp)).write (addr + 1) (highByte sp)

/-- Adds a pair to HL. -/
def addWord (m : Core) (p : Pair) : Core :=
  m.onCpu fun r =>
    let sum := r.hl + r.pair p
    let flags := Arithmetic.addWordFlags r.hl (r.pair p) r.f
    Cpu.setHl { r with f := flags } sum

/-- STOP is two bytes long. It switches the speed if that is armed, and does nothing else. -/
def stop (m : Core) : Core :=
  let m := m.skip 1
  if m.bus.speedArmed then
    let bus := m.bus.switchSpeed
    let doubleSpeed := bus.doubleSpeed
    { m with bus := bus.report (.speedSwitched doubleSpeed) }
  else
    let pc := m.cpu.pc - 2
    { m with bus := m.bus.report (.stopIgnored pc) }

/-- HALT waits for an interrupt, unless one is pending that cannot be served: then nothing waits,
and the next byte will be read twice. -/
def halt (m : Core) : Core :=
  let waiting := Interrupt.pending m.bus.requests m.bus.enables
  if !m.cpu.ime && waiting != 0 then m.onCpu fun r => { r with haltBug := true }
  else m.onCpu fun r => { r with halted := true }

/-- Jumps by the displacement that follows. -/
def jumpNear (m : Core) : Core :=
  let d := m.immediate
  (m.skip 1).onCpu fun r => { r with pc := displace r.pc d }

/-- Loads, stores and arithmetic below opcode `40`. -/
def executeLow (m : Core) (instruction : Instruction) : Core :=
  match instruction with
  | .loadWord p =>
    let w := m.immediateWord
    (m.skip 2).onCpu fun r => r.setPair p w
  | .storeA p =>
    let addr := m.cpu.pointer p
    let val := m.cpu.a
    (m.write addr val).onCpu fun r => r.movePointer p
  | .loadA p =>
    let val := m.read (m.cpu.pointer p)
    m.onCpu fun r => Cpu.movePointer { r with a := val } p
  | .increaseWord p => m.moveWord p 1
  | .decreaseWord p => m.moveWord p 0xFFFF
  | .increase o =>
    let result := Arithmetic.increase (m.operand o) m.cpu.f
    m.setFlagged o result
  | .decrease o =>
    let result := Arithmetic.decrease (m.operand o) m.cpu.f
    m.setFlagged o result
  | .loadByte o =>
    let val := m.immediate
    (m.skip 1).setOperand o val
  | .storeSp => m.storeSp
  | .addWord p => m.addWord p
  | .stop => m.stop
  | .jumpNear => m.jumpNear
  | .jumpNearIf condition => if m.cpu.holds condition then m.jumpNear else m.skip 1
  | _ => m

/-- Operations on A, and copies. -/
def executeByte (m : Core) (instruction : Instruction) : Core :=
  match instruction with
  | .copy target source =>
    let val := m.operand source
    m.setOperand target val
  | .compute operation o =>
    let val := m.operand o
    m.onCpu fun r => r.setResult (r.operate operation val)
  | .computeByte operation =>
    let val := m.immediate
    (m.skip 1).onCpu fun r => r.setResult (r.operate operation val)
  | _ => m

-- The equations of a match over all instructions are deep.
set_option maxRecDepth 2000 in
/-- Jumps, calls and returns. -/
def executeJump (m : Core) (instruction : Instruction) : Core :=
  match instruction with
  | .jump =>
    let addr := m.immediateWord
    m.goto addr
  | .jumpIf condition =>
    if m.cpu.holds condition then
      let addr := m.immediateWord
      m.goto addr
    else m.skip 2
  | .jumpHl =>
    let addr := m.cpu.hl
    m.goto addr
  | .call =>
    let addr := m.immediateWord
    (m.skip 2).callTo addr
  | .callIf condition =>
    if m.cpu.holds condition then
      let addr := m.immediateWord
      (m.skip 2).callTo addr
    else m.skip 2
  | .restart target => m.callTo target.toUInt16
  | .ret => m.returnBack
  | .retIf condition => if m.cpu.holds condition then m.returnBack else m
  | .retEnable => m.returnBack.onCpu fun r => { r with ime := true }
  | _ => m

/-- Stack instructions, and loads and stores of A and SP from opcode `C0` on. -/
def executeHigh (m : Core) (instruction : Instruction) : Core :=
  match instruction with
  | .push p =>
    let w := m.cpu.stackPair p
    m.push w
  | .pop p =>
    let w := m.top
    m.drop.onCpu fun r => r.setStackPair p w
  | .storeHigh =>
    let addr := word 0xFF m.immediate
    let val := m.cpu.a
    (m.skip 1).write addr val
  | .loadHigh =>
    let val := m.read (word 0xFF m.immediate)
    (m.skip 1).setOperand .a val
  | .storeHighC =>
    let addr := word 0xFF m.cpu.c
    let val := m.cpu.a
    m.write addr val
  | .loadHighC =>
    let val := m.read (word 0xFF m.cpu.c)
    m.setOperand .a val
  | .storeAbsolute =>
    let addr := m.immediateWord
    let val := m.cpu.a
    (m.skip 2).write addr val
  | .loadAbsolute =>
    let val := m.read m.immediateWord
    (m.skip 2).setOperand .a val
  | .moveSp =>
    let d := m.immediate
    (m.skip 1).onCpu fun r =>
      { r with f := Arithmetic.displaceFlags r.sp d, sp := displace r.sp d }
  | .loadHlSp =>
    let d := m.immediate
    (m.skip 1).onCpu fun r =>
      let sum := displace r.sp d
      { r with f := Arithmetic.displaceFlags r.sp d, h := highByte sum, l := lowByte sum }
  | .loadSpHl => m.onCpu fun r => { r with sp := r.hl }
  | _ => m

/-- An instruction behind the prefix. -/
def executeExtended (m : Core) (instruction : Extended) : Core :=
  match instruction with
  | .rotate kind o =>
    let result := m.cpu.rotate kind (m.operand o)
    m.setFlagged o result
  | .test bit o =>
    let val := m.operand o &&& (1 <<< bit)
    m.onCpu fun r => { r with f := (r.f &&& Flag.carry) ||| Flag.half ||| Arithmetic.zeroFlag val }
  | .reset bit o =>
    let val := m.operand o &&& ~~~(1 <<< bit)
    m.setOperand o val
  | .set bit o =>
    let val := m.operand o ||| (1 <<< bit)
    m.setOperand o val

/-- An opcode without a meaning does nothing. -/
def ignore (m : Core) (opcode : UInt8) : Core :=
  let pc := m.cpu.pc - 1
  { m with bus := m.bus.report (.unknownOpcode opcode pc) }

set_option maxRecDepth 2000 in
/-- Carries out an instruction whose opcode has been fetched. -/
def execute (m : Core) (instruction : Instruction) : Core :=
  match instruction with
  | .nop => m
  | .rotateA _ => m.onCpu fun r => r.executeOnA instruction
  | .adjustA => m.onCpu fun r => r.executeOnA instruction
  | .complementA => m.onCpu fun r => r.executeOnA instruction
  | .setCarry => m.onCpu fun r => r.executeOnA instruction
  | .flipCarry => m.onCpu fun r => r.executeOnA instruction
  | .halt => m.halt
  | .copy _ _ => m.executeByte instruction
  | .compute _ _ => m.executeByte instruction
  | .computeByte _ => m.executeByte instruction
  | .ret => m.executeJump instruction
  | .retIf _ => m.executeJump instruction
  | .retEnable => m.executeJump instruction
  | .jump => m.executeJump instruction
  | .jumpIf _ => m.executeJump instruction
  | .jumpHl => m.executeJump instruction
  | .call => m.executeJump instruction
  | .callIf _ => m.executeJump instruction
  | .restart _ => m.executeJump instruction
  | .extended =>
    let instruction := Extended.decode m.immediate
    (m.skip 1).executeExtended instruction
  | .disableInterrupts => m.onCpu fun r => { r with ime := false, imePending := false }
  | .enableInterrupts => m.onCpu fun r => { r with imePending := true }
  | .unknown opcode => m.ignore opcode
  | .push _ => m.executeHigh instruction
  | .pop _ => m.executeHigh instruction
  | .storeHigh => m.executeHigh instruction
  | .loadHigh => m.executeHigh instruction
  | .storeHighC => m.executeHigh instruction
  | .loadHighC => m.executeHigh instruction
  | .storeAbsolute => m.executeHigh instruction
  | .loadAbsolute => m.executeHigh instruction
  | .moveSp => m.executeHigh instruction
  | .loadHlSp => m.executeHigh instruction
  | .loadSpHl => m.executeHigh instruction
  | _ => m.executeLow instruction

/-- The cost of an instruction whose opcode has been fetched. -/
def costOf (m : Core) (instruction : Instruction) : Nat :=
  match instruction with
  | .extended => (Extended.decode m.immediate).cost
  | instruction =>
    match instruction.condition? with
    | some condition =>
      if m.cpu.holds condition then instruction.cost + instruction.takenCost else instruction.cost
    | none => instruction.cost

end Core

end DotMatrix
