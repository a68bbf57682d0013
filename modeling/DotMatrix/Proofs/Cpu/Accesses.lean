import DotMatrix.Cpu.Run
import DotMatrix.Proofs.Word

/-!
# What a step of the processor does to the bus

A step reaches the bus at most once, except that a word is written as two bytes, to two addresses one
beside the other. `Reached` lists what an instruction may do, with the addresses that it writes to,
and `targets` says which these are. `Accessed` lists what a step may do; what is to be shown of all
steps is shown of the constructors.

Results:
* `push_reached`, `stop_reached`, ...: the parts of instructions.
* **`execute_reached`**: one instruction.
* **`step_accessed`**: one step.
-/

namespace DotMatrix

/-- What an instruction may do to the bus, with the addresses that it writes to. -/
inductive Bus.Reached (b : Bus) : List UInt16 → Bus → Prop where
  | nothing : Reached b [] b
  | write (addr : UInt16) (val : UInt8) : Reached b [addr] (b.write addr val)
  | writeTwo {first second : UInt16} (other : first ≠ second) (val val' : UInt8) :
      Reached b [first, second] ((b.write first val).write second val')
  | spoilOam : Reached b [] { b with video := b.video.spoilOam }
  | switchSpeed (notice : Notice) : Reached b [] (b.switchSpeed.report notice)
  | report (notice : Notice) : Reached b [] (b.report notice)

/-- What a step of the processor may do to the bus. -/
inductive Bus.Accessed (b : Bus) : Bus → Prop where
  | nothing : Accessed b b
  | write (addr : UInt16) (val : UInt8) : Accessed b (b.write addr val)
  /-- A word goes to two addresses. A dispatch takes the request that it serves before it pushes the
  program counter. -/
  | writeTwo (requests : UInt8) {first second : UInt16} (other : first ≠ second) (val val' : UInt8) :
      Accessed b ((Bus.write { b with requests := requests } first val).write second val')
  | spoilOam : Accessed b { b with video := b.video.spoilOam }
  | switchSpeed (notice : Notice) : Accessed b (b.switchSpeed.report notice)
  | report (notice : Notice) : Accessed b (b.report notice)

theorem Bus.Reached.accessed {b b' : Bus} {addrs : List UInt16} (h : b.Reached addrs b') :
    b.Accessed b' := by
  cases h with
  | nothing => exact .nothing
  | write addr val => exact .write addr val
  | writeTwo other val val' => exact .writeTwo b.requests other val val'
  | spoilOam => exact .spoilOam
  | switchSpeed notice => exact .switchSpeed notice
  | report notice => exact .report notice

namespace Core

variable (m : Core)

/-! ## Addresses -/

/-- The address that an operand is written to, if it is in memory. -/
def place : Operand → List UInt16
  | .atHl => [m.cpu.hl]
  | _ => []

/-- The addresses that a push writes to: below the top of the stack, and below that. -/
def pushed : List UInt16 :=
  [m.cpu.sp - 1, m.cpu.sp - 1 - 1]

/-- The addresses that an instruction behind the prefix writes to. -/
def extendedTargets : Extended → List UInt16
  | .rotate _ o => m.place o
  | .test _ _ => []
  | .reset _ o => m.place o
  | .set _ o => m.place o

/-- The addresses that an instruction writes to, when its opcode has been fetched. -/
def targets : Instruction → List UInt16
  | .storeA p => [m.cpu.pointer p]
  | .increase o => m.place o
  | .decrease o => m.place o
  | .loadByte o => m.place o
  | .storeSp => [m.immediateWord, m.immediateWord + 1]
  | .copy target _ => m.place target
  | .call => m.pushed
  | .callIf condition => if m.cpu.holds condition then m.pushed else []
  | .restart _ => m.pushed
  | .push _ => m.pushed
  | .extended => m.extendedTargets (Extended.decode m.immediate)
  | .storeHigh => [word 0xFF m.immediate]
  | .storeHighC => [word 0xFF m.cpu.c]
  | .storeAbsolute => [m.immediateWord]
  | _ => []

/-! ## Parts of instructions -/

theorem settleEnable_bus : m.settleEnable.bus = m.bus := by
  unfold settleEnable
  split <;> rfl

theorem passOpcode_bus : m.passOpcode.bus = m.bus := by
  unfold passOpcode
  split <;> rfl

theorem halt_bus : m.halt.bus = m.bus := by
  simp only [halt]
  split <;> rfl

theorem setOperand_reached (o : Operand) (val : UInt8) :
    m.bus.Reached (m.place o) (m.setOperand o val).bus := by
  cases o with
  | atHl => exact .write m.cpu.hl val
  | _ => exact .nothing

theorem setFlagged_reached (o : Operand) (result : Flagged) :
    m.bus.Reached (m.place o) (m.setFlagged o result).bus := by
  have placed : (m.setFlags result.flags).place o = m.place o := by
    cases o <;> rfl
  rw [← placed]
  exact setOperand_reached (m.setFlags result.flags) o result.value

theorem push_bus (w : UInt16) : (m.push w).bus =
    (m.bus.write (m.cpu.sp - 1) (highByte w)).write (m.cpu.sp - 1 - 1) (lowByte w) := rfl

theorem push_reached (w : UInt16) : m.bus.Reached m.pushed (m.push w).bus := by
  rw [push_bus]
  exact .writeTwo (ne_sub_one _) _ _

theorem callTo_reached (addr : UInt16) : m.bus.Reached m.pushed (m.callTo addr).bus :=
  push_reached m m.cpu.pc

theorem spoilAt_reached (p : Pair) : m.bus.Reached [] (m.spoilAt p).bus := by
  unfold spoilAt
  split
  · exact .spoilOam
  · exact .nothing

theorem stop_reached : m.bus.Reached [] m.stop.bus := by
  simp only [stop]
  split
  · exact .switchSpeed _
  · exact .report _

/-! ## Instructions -/

theorem executeExtended_reached (i : Extended) :
    m.bus.Reached (m.extendedTargets i) (m.executeExtended i).bus := by
  cases i with
  | rotate kind o => exact setFlagged_reached m o _
  | test bit o => exact .nothing
  | reset bit o => exact setOperand_reached m o _
  | set bit o => exact setOperand_reached m o _

/-- **One instruction** reaches the bus at most once, or writes a word. -/
theorem execute_reached (i : Instruction) : m.bus.Reached (m.targets i) (m.execute i).bus := by
  cases i with
  | storeA p => exact .write _ _
  | increaseWord p => exact spoilAt_reached m p
  | decreaseWord p => exact spoilAt_reached m p
  | increase o => exact setFlagged_reached m o _
  | decrease o => exact setFlagged_reached m o _
  | loadByte o =>
    have placed : (m.skip 1).place o = m.place o := by
      cases o <;> rfl
    change m.bus.Reached (m.place o) _
    rw [← placed]
    exact setOperand_reached (m.skip 1) o _
  | storeSp => exact .writeTwo (ne_add_one m.immediateWord) _ _
  | stop => exact stop_reached m
  | halt =>
    change m.bus.Reached [] m.halt.bus
    rw [halt_bus]
    exact .nothing
  | copy target source => exact setOperand_reached m target _
  | call => exact callTo_reached (m.skip 2) _
  | callIf condition =>
    change m.bus.Reached (if m.cpu.holds condition then m.pushed else [])
      (if m.cpu.holds condition then (m.skip 2).callTo m.immediateWord else m.skip 2).bus
    split
    · exact callTo_reached (m.skip 2) _
    · exact .nothing
  | restart target => exact callTo_reached m _
  | push p => exact push_reached m _
  | extended => exact executeExtended_reached (m.skip 1) _
  | storeHigh => exact .write _ _
  | storeHighC => exact .write _ _
  | storeAbsolute => exact .write _ _
  | unknown opcode => exact .report _
  | jumpNearIf condition =>
    change m.bus.Reached [] (if m.cpu.holds condition then m.jumpNear else m.skip 1).bus
    split <;> exact .nothing
  | jumpIf condition =>
    change m.bus.Reached []
      (if m.cpu.holds condition then m.goto m.immediateWord else m.skip 2).bus
    split <;> exact .nothing
  | retIf condition =>
    change m.bus.Reached [] (if m.cpu.holds condition then m.returnBack else m).bus
    split <;> exact .nothing
  | _ => exact .nothing

/-! ## Steps -/

theorem runInstruction_reached : m.bus.Reached
    (m.settleEnable.passOpcode.targets
      (Instruction.decode (m.settleEnable.read m.settleEnable.cpu.pc)))
    m.runInstruction.1.bus := by
  have fetched : m.settleEnable.passOpcode.bus = m.bus :=
    (passOpcode_bus _).trans (settleEnable_bus m)
  have executed := execute_reached m.settleEnable.passOpcode
    (Instruction.decode (m.settleEnable.read m.settleEnable.cpu.pc))
  rwa [fetched] at executed

/-- A dispatch takes the request, and then pushes the program counter. -/
theorem dispatch_accessed : m.bus.Accessed m.dispatch.bus :=
  .writeTwo ((Interrupt.first m.pending).acknowledge m.bus.requests) (ne_sub_one _) _ _

/-- **A step** reaches the bus at most once, or writes a word. -/
theorem step_accessed : m.bus.Accessed m.step.1.bus := by
  unfold step
  split
  · split
    · exact .nothing
    split
    · exact dispatch_accessed m.wake
    · exact (runInstruction_reached m.wake).accessed
  split
  · exact dispatch_accessed m
  · exact (runInstruction_reached m).accessed

end Core

end DotMatrix
