import DotMatrix.Cpu.Run

/-!
# What a step of the processor costs

Costs are whole multiples of four processor cycles. An instruction costs at most 24 of them, the cost
of a call that is made. A step may cost four more: a halted processor is woken first, and only then
carries out an instruction.

Results:
* `Extended.cost_whole`, `Instruction.cost_whole`, `Instruction.taken_whole`: the two tables, and what
  a condition adds that holds.
* **`step_cost`**: what a step costs, from any state of the machine.
-/

namespace DotMatrix

namespace Extended

theorem cost_whole (i : Extended) : 4 ∣ i.cost ∧ i.cost ≤ 16 := by
  unfold cost
  split <;> decide

end Extended

namespace Instruction

theorem memoryCost_eq (o : Operand) : memoryCost o = 0 ∨ memoryCost o = 4 := by
  cases o with
  | atHl => exact .inr rfl
  | _ => exact .inl rfl

theorem cost_whole (i : Instruction) : 4 ∣ i.cost ∧ i.cost ≤ 24 := by
  cases i with
  | increase o | decrease o | loadByte o | compute _ o =>
    have memory := memoryCost_eq o
    simp only [cost]
    omega
  | copy target source =>
    have target := memoryCost_eq target
    have source := memoryCost_eq source
    simp only [cost]
    omega
  | _ =>
    simp only [cost]
    decide

/-- A condition that holds makes no instruction more expensive than a call. -/
theorem taken_whole (i : Instruction) :
    4 ∣ i.cost + i.takenCost ∧ i.cost + i.takenCost ≤ 24 := by
  unfold takenCost
  split
  case h_5 => exact i.cost_whole
  all_goals
    simp only [cost]
    decide

end Instruction

namespace Core

theorem costOf_whole (m : Core) (i : Instruction) : 4 ∣ m.costOf i ∧ m.costOf i ≤ 24 := by
  unfold costOf
  split
  · obtain ⟨whole, most⟩ := (Extended.decode m.immediate).cost_whole
    exact ⟨whole, Nat.le_trans most (by decide)⟩
  · split
    · split
      · exact i.taken_whole
      · exact i.cost_whole
    · exact i.cost_whole

theorem runInstruction_whole (m : Core) :
    4 ∣ m.runInstruction.2 ∧ m.runInstruction.2 ≤ 24 :=
  costOf_whole _ _

/-- **A step** costs a multiple of four cycles, from 4 to 28. -/
theorem step_cost (m : Core) : 4 ∣ m.step.2 ∧ 4 ≤ m.step.2 ∧ m.step.2 ≤ 28 := by
  have idle : 4 ∣ idleCost ∧ idleCost ≤ 28 := by decide
  have served : 4 ∣ dispatchCost ∧ dispatchCost ≤ 28 := by decide
  have woken : 4 ∣ idleCost + dispatchCost ∧ idleCost + dispatchCost ≤ 28 := by decide
  refine and_left_comm.mp ⟨four_le_step m, ?_⟩
  unfold step
  split
  · split
    · exact idle
    split
    · exact woken
    · obtain ⟨whole, most⟩ := m.wake.runInstruction_whole
      exact ⟨Nat.dvd_add idle.1 whole, Nat.add_le_add_left most idleCost⟩
  split
  · exact served
  · obtain ⟨whole, most⟩ := m.runInstruction_whole
    exact ⟨whole, Nat.le_trans most (by decide)⟩

end Core

end DotMatrix
