import DotMatrix.Cpu.Execute

/-!
# Steps of the processor

A step is one instruction, one interrupt dispatch, or one idle period of a halted processor. A
pending interrupt wakes a halted processor; it is dispatched when the master enable is on, which
then goes off. EI turns the master enable on only after the instruction that follows it.
-/

namespace DotMatrix

namespace Core

/-- The cost of an idle period, and of waking up. -/
def idleCost : Nat := 4

/-- The cost of a dispatch. -/
def dispatchCost : Nat := 20

/-- The interrupts that are requested and enabled. -/
def pending (m : Core) : UInt8 :=
  Interrupt.pending m.bus.requests m.bus.enables

/-- The processor is no longer halted. -/
def wake (m : Core) : Core :=
  m.onCpu fun r => { r with halted := false }

/-- Serves the first pending interrupt: its request is taken, and its handler called. -/
def dispatch (m : Core) : Core :=
  let interrupt := Interrupt.first m.pending
  let m := m.onCpu fun r => { r with ime := false }
  let m := { m with bus := { m.bus with requests := interrupt.acknowledge m.bus.requests } }
  m.callTo interrupt.vector

/-- The effect of EI reaches the master enable. -/
def settleEnable (m : Core) : Core :=
  if m.cpu.imePending then m.onCpu fun r => { r with imePending := false, ime := true } else m

/-- The program counter past the opcode, unless the fault of HALT makes it be read again. -/
def passOpcode (m : Core) : Core :=
  if m.cpu.haltBug then m.onCpu fun r => { r with haltBug := false } else m.skip 1

/-- Fetches and carries out one instruction; also gives its cost. -/
def runInstruction (m : Core) : Core × Nat :=
  let m := m.settleEnable
  let instruction := Instruction.decode (m.read m.cpu.pc)
  let m := m.passOpcode
  let cost := m.costOf instruction
  (m.execute instruction, cost)

/-- One step; also gives its cost in processor cycles. -/
def step (m : Core) : Core × Nat :=
  if m.cpu.halted then
    if m.pending == 0 then (m, idleCost)
    else if m.cpu.ime then (m.wake.dispatch, idleCost + dispatchCost)
    else
      let (m, cost) := m.wake.runInstruction
      (m, idleCost + cost)
  else if m.cpu.ime && m.pending != 0 then (m.dispatch, dispatchCost)
  else m.runInstruction

end Core

end DotMatrix
