import DotMatrix.Bus.Clock
import DotMatrix.Cpu.Step

/-!
# Processor and bus together

A turn of the machine is one step of the processor followed by the time it took, transfers included,
for all devices. `Core.run` makes turns until enough base-clock cycles have passed; this always
happens, as every turn takes some (`turn_pos`).
-/

namespace DotMatrix

namespace Extended

theorem four_le_cost (i : Extended) : 4 ≤ i.cost := by
  unfold cost
  split <;> decide

end Extended

namespace Instruction

/-- Every instruction but a prefixed one, whose cost its second byte decides, costs at least
four. -/
theorem four_le_cost (i : Instruction) (h : i ≠ .extended) : 4 ≤ i.cost := by
  cases i with
  | extended => exact absurd rfl h
  | _ => simp only [cost]; omega

end Instruction

namespace Core

theorem four_le_costOf (m : Core) (i : Instruction) : 4 ≤ m.costOf i := by
  unfold costOf
  split
  · exact Extended.four_le_cost _
  · rename_i h
    have h := Instruction.four_le_cost i h
    split
    · split <;> omega
    · exact h

theorem four_le_runInstruction (m : Core) : 4 ≤ m.runInstruction.2 :=
  four_le_costOf _ _

/-- Every step of the processor takes at least four of its cycles. -/
theorem four_le_step (m : Core) : 4 ≤ m.step.2 := by
  have idle : 4 ≤ idleCost := by decide
  have dispatch : 4 ≤ dispatchCost := by decide
  unfold step
  split
  · split
    · exact idle
    · split
      · exact Nat.le_add_right_of_le idle
      · exact Nat.le_add_right_of_le idle
  · split
    · exact dispatch
    · exact four_le_runInstruction m

/-- The processor cycles of the next turn, transfers of the step included. -/
def charge (m : Core) (cost : Nat) : Core × Nat :=
  let cycles := cost + m.bus.stall
  let bus := m.bus.takeStall
  let base := bus.baseCycles cycles
  ({ m with bus := bus.step cycles }, base)

/-- One turn; also gives the base-clock cycles that have passed. -/
def turn (m : Core) : Core × Nat :=
  let (m, cost) := m.step
  m.charge cost

theorem charge_pos (m : Core) (cost : Nat) (h : 4 ≤ cost) : 0 < (m.charge cost).2 := by
  simp only [charge, Bus.baseCycles]
  split <;> omega

/-- Every turn takes time. -/
theorem turn_pos (m : Core) : 0 < m.turn.2 :=
  charge_pos _ _ (four_le_step m)

/-- Turns until `goal` base-clock cycles have passed, when `elapsed` have passed already. -/
def runFrom (m : Core) (goal elapsed : Nat) : Core × Nat :=
  if elapsed < goal then
    let next := m.turn
    runFrom next.1 goal (elapsed + next.2)
  else (m, elapsed)
termination_by goal - elapsed
decreasing_by
  have h := turn_pos m
  omega

/-- Turns until `cycles` base-clock cycles have passed; also gives how many it was in the end. -/
def run (m : Core) (cycles : Nat) : Core × Nat :=
  m.runFrom cycles 0

end Core

end DotMatrix
