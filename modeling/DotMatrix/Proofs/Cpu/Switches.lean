import DotMatrix.Cpu.Step

/-!
# Which instructions touch the interrupt switches

`Core.switches` is the master enable and its delayed form. Only three instructions touch them: DI,
EI and RETI. All others leave both alone, whatever they do to registers and memory.

Results:
* **`execute_switches`**: an instruction other than DI, EI and RETI leaves the switches alone.
* `decode_enableInterrupts`, `decode_retEnable`, `decode_disableInterrupts`: the three have one
  opcode each.
-/

namespace DotMatrix

namespace Instruction

/-- Whether an instruction leaves the interrupt switches alone. -/
def keepsSwitches : Instruction → Bool
  | retEnable | disableInterrupts | enableInterrupts => false
  | _ => true

theorem decode_ofNat : ∀ n : Fin 256,
    (decode (UInt8.ofNat n.val) = enableInterrupts ↔ UInt8.ofNat n.val = 0xFB) ∧
      (decode (UInt8.ofNat n.val) = retEnable ↔ UInt8.ofNat n.val = 0xD9) ∧
      (decode (UInt8.ofNat n.val) = disableInterrupts ↔ UInt8.ofNat n.val = 0xF3) := by
  decide +kernel

/-- EI has one opcode. -/
theorem decode_enableInterrupts {opcode : UInt8} :
    decode opcode = enableInterrupts ↔ opcode = 0xFB := by
  have checked := (decode_ofNat ⟨opcode.toNat, opcode.toNat_lt⟩).1
  rwa [UInt8.ofNat_toNat] at checked

/-- RETI has one opcode. -/
theorem decode_retEnable {opcode : UInt8} : decode opcode = retEnable ↔ opcode = 0xD9 := by
  have checked := (decode_ofNat ⟨opcode.toNat, opcode.toNat_lt⟩).2.1
  rwa [UInt8.ofNat_toNat] at checked

/-- DI has one opcode. -/
theorem decode_disableInterrupts {opcode : UInt8} :
    decode opcode = disableInterrupts ↔ opcode = 0xF3 := by
  have checked := (decode_ofNat ⟨opcode.toNat, opcode.toNat_lt⟩).2.2
  rwa [UInt8.ofNat_toNat] at checked

/-- Every other opcode leaves the interrupt switches alone. -/
theorem decode_keeps {opcode : UInt8} (enable : opcode ≠ 0xFB) (ret : opcode ≠ 0xD9)
    (disable : opcode ≠ 0xF3) : (decode opcode).keepsSwitches = true := by
  unfold keepsSwitches
  split
  case h_1 other => exact absurd (decode_retEnable.mp other) ret
  case h_2 other => exact absurd (decode_disableInterrupts.mp other) disable
  case h_3 other => exact absurd (decode_enableInterrupts.mp other) enable
  case h_4 => rfl

end Instruction

namespace Core

/-- The master enable, and whether EI is about to set it. -/
def switches (m : Core) : Bool × Bool :=
  (m.cpu.ime, m.cpu.imePending)

/-! ## The parts of instructions -/

theorem skip_switches (m : Core) (n : UInt16) : (m.skip n).switches = m.switches := rfl

theorem goto_switches (m : Core) (addr : UInt16) : (m.goto addr).switches = m.switches := rfl

theorem setOperand_switches (m : Core) (o : Operand) (val : UInt8) :
    (m.setOperand o val).switches = m.switches := by
  cases o <;> rfl

theorem setFlagged_switches (m : Core) (o : Operand) (result : Flagged) :
    (m.setFlagged o result).switches = m.switches :=
  setOperand_switches (m.setFlags result.flags) o result.value

theorem push_switches (m : Core) (w : UInt16) : (m.push w).switches = m.switches := rfl

theorem callTo_switches (m : Core) (addr : UInt16) : (m.callTo addr).switches = m.switches := rfl

theorem returnBack_switches (m : Core) : m.returnBack.switches = m.switches := rfl

theorem setPair_switches (m : Core) (p : Pair) (w : Cpu → UInt16) :
    (m.onCpu fun r => r.setPair p (w r)).switches = m.switches := by
  cases p <;> rfl

theorem setStackPair_switches (m : Core) (p : StackPair) (w : UInt16) :
    (m.onCpu fun r => r.setStackPair p w).switches = m.switches := by
  cases p <;> rfl

theorem spoilAt_switches (m : Core) (p : Pair) : (m.spoilAt p).switches = m.switches := by
  unfold spoilAt
  split <;> rfl

theorem moveWord_switches (m : Core) (p : Pair) (d : UInt16) :
    (m.moveWord p d).switches = m.switches := by
  unfold moveWord
  rw [setPair_switches, spoilAt_switches]

theorem stop_switches (m : Core) : m.stop.switches = m.switches := by
  simp only [stop]
  split <;> rfl

theorem halt_switches (m : Core) : m.halt.switches = m.switches := by
  simp only [halt]
  split <;> rfl

theorem jumpNear_switches (m : Core) : m.jumpNear.switches = m.switches := rfl

/-! ## Instructions by kind -/

theorem executeLow_switches (m : Core) (i : Instruction) :
    (m.executeLow i).switches = m.switches := by
  unfold executeLow
  split
  case h_1 p => exact setPair_switches (m.skip 2) p _
  case h_2 p => cases p <;> rfl
  case h_3 p => cases p <;> rfl
  case h_4 p => exact moveWord_switches m p 1
  case h_5 p => exact moveWord_switches m p 0xFFFF
  case h_6 o => exact setFlagged_switches m o _
  case h_7 o => exact setFlagged_switches m o _
  case h_8 o => exact setOperand_switches (m.skip 1) o _
  case h_9 => rfl
  case h_10 p => rfl
  case h_11 => exact stop_switches m
  case h_12 => exact jumpNear_switches m
  case h_13 condition =>
    split
    · exact jumpNear_switches m
    · exact skip_switches m 1
  case h_14 => rfl

theorem executeByte_switches (m : Core) (i : Instruction) :
    (m.executeByte i).switches = m.switches := by
  unfold executeByte
  split
  case h_1 target source => exact setOperand_switches m target _
  case h_2 operation o => rfl
  case h_3 operation => rfl
  case h_4 => rfl

theorem executeJump_switches (m : Core) {i : Instruction} (h : i ≠ .retEnable) :
    (m.executeJump i).switches = m.switches := by
  unfold executeJump
  split
  case h_1 => exact goto_switches m _
  case h_2 condition =>
    split
    · exact goto_switches m _
    · exact skip_switches m 2
  case h_3 => exact goto_switches m _
  case h_4 => exact callTo_switches (m.skip 2) _
  case h_5 condition =>
    split
    · exact callTo_switches (m.skip 2) _
    · exact skip_switches m 2
  case h_6 target => exact callTo_switches m _
  case h_7 => exact returnBack_switches m
  case h_8 condition =>
    split
    · exact returnBack_switches m
    · rfl
  case h_9 => exact absurd rfl h
  case h_10 => rfl

theorem executeHigh_switches (m : Core) (i : Instruction) :
    (m.executeHigh i).switches = m.switches := by
  unfold executeHigh
  split
  case h_1 p => exact push_switches m _
  case h_2 p => exact setStackPair_switches m.drop p _
  all_goals rfl

theorem executeExtended_switches (m : Core) (i : Extended) :
    (m.executeExtended i).switches = m.switches := by
  cases i with
  | rotate kind o => exact setFlagged_switches m o _
  | test bit o => rfl
  | reset bit o => exact setOperand_switches m o _
  | set bit o => exact setOperand_switches m o _

/-- An instruction other than DI, EI and RETI leaves the interrupt switches alone. -/
theorem execute_switches (m : Core) {i : Instruction} (h : i.keepsSwitches = true) :
    (m.execute i).switches = m.switches := by
  unfold execute
  split
  all_goals first
    | exact halt_switches m
    | exact executeByte_switches m _
    | exact executeJump_switches m Instruction.noConfusion
    | exact executeHigh_switches m _
    | exact executeLow_switches m _
    | exact executeExtended_switches (m.skip 1) _
    | rfl
    | cases h

end Core

end DotMatrix
