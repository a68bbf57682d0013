import DotMatrix.Proofs.Word
import DotMatrix.Timer

/-!
# The divider

The divider counts every cycle, and is cleared by a write to DIV and by the change of speed. One of
its bits paces the sound sequencer, bit 12 or, in double speed, bit 13: the edges that a timer in use
hands on are the falls of that bit.

Results:
* `Run.tick_div`, `Run.step_div`, `Run.resetDiv_div`: the divider.
* **`Run.step_edges`**, **`Run.resetDiv_edges`**: the edges, as falls of the bit.
-/

namespace DotMatrix

/-- How often a bit falls that has a value `before` and takes other values later. -/
def falls : Bool → List Bool → Nat
  | _, [] => 0
  | before, now :: later => (if before && !now then 1 else 0) + falls now later

namespace Timer

/-- The place of the bit that paces the sequencer. -/
def pacePlace (doubleSpeed : Bool) : Nat :=
  if doubleSpeed then 13 else 12

/-- That bit of a divider. -/
def pace (doubleSpeed : Bool) (div : UInt16) : Bool :=
  div.toNat.testBit (pacePlace doubleSpeed)

theorem and_sequencerBit (doubleSpeed : Bool) (div : UInt16) :
    (div &&& sequencerBit doubleSpeed != 0) = pace doubleSpeed div := by
  have place : (sequencerBit doubleSpeed).toNat = 2 ^ pacePlace doubleSpeed := by
    cases doubleSpeed <;> rfl
  exact and_bit place div

theorem pace_zero (doubleSpeed : Bool) : pace doubleSpeed 0 = false :=
  Nat.zero_testBit _

namespace Run

variable (doubleSpeed : Bool) (r : Run)

theorem count_div : r.count.timer.div = r.timer.div := by
  unfold count countUp
  split <;> rfl

theorem count_edges : r.count.edges = r.edges := by
  unfold count
  split <;> rfl

theorem tick_div : (r.tick doubleSpeed).timer.div = r.timer.div + 1 := by
  simp only [tick]
  split
  · exact count_div _
  · rfl

/-- A cycle is an edge if the bit falls with it. -/
theorem tick_edges : (r.tick doubleSpeed).edges =
    r.edges + if pace doubleSpeed r.timer.div && !pace doubleSpeed (r.timer.div + 1) then 1 else 0 := by
  have low (div : UInt16) :
      (div &&& sequencerBit doubleSpeed == 0) = !pace doubleSpeed div := by
    rw [← and_sequencerBit, bne, Bool.not_not]
  have edges : (r.tick doubleSpeed).edges =
      if pace doubleSpeed r.timer.div && !pace doubleSpeed (r.timer.div + 1) then r.edges + 1
      else r.edges := by
    simp only [tick, and_sequencerBit, low]
    split
    · exact count_edges _
    · rfl
  rw [edges]
  split <;> rfl

theorem step_div (n : Nat) : (step doubleSpeed n r).timer.div = r.timer.div + n.toUInt16 := by
  induction n generalizing r with
  | zero => exact (UInt16.add_zero _).symm
  | succ n ih => rw [step, ih, tick_div, add_one_add_toUInt16]

/-- The edges of some cycles are the falls of the bit as the divider counts up. -/
theorem step_edges (n : Nat) : (step doubleSpeed n r).edges =
    r.edges + falls (pace doubleSpeed r.timer.div)
      ((List.range n).map fun i => pace doubleSpeed (r.timer.div + (i + 1).toUInt16)) := by
  induction n generalizing r with
  | zero => rfl
  | succ n ih =>
    have later (i : Nat) : (r.tick doubleSpeed).timer.div + (i + 1).toUInt16 =
        r.timer.div + (i + 1 + 1).toUInt16 := by
      rw [tick_div, add_one_add_toUInt16]
    have first : r.timer.div + (0 + 1).toUInt16 = (r.tick doubleSpeed).timer.div :=
      (tick_div doubleSpeed r).symm
    rw [step, ih, tick_edges, ← tick_div doubleSpeed r, List.range_succ_eq_map, List.map_cons,
      List.map_map, falls, first, Nat.add_assoc]
    simp only [later]
    rfl

theorem resetDiv_div : (r.resetDiv doubleSpeed).timer.div = 0 := rfl

/-- The edge of a divider that is cleared is the fall of the bit. -/
theorem resetDiv_edges : (r.resetDiv doubleSpeed).edges =
    r.edges + falls (pace doubleSpeed r.timer.div) [false] := by
  have counted (counts : Bool) : (if counts then r.count else r).edges = r.edges := by
    cases counts
    · rfl
    · exact count_edges r
  simp only [resetDiv, counted, and_sequencerBit, falls]
  cases pace doubleSpeed r.timer.div <;> rfl

end Run

end Timer

end DotMatrix
