import DotMatrix.Proofs.Bus.Stall
import DotMatrix.Proofs.Console.Play
import DotMatrix.Proofs.Console.Sleep
import DotMatrix.Proofs.Console.Tracked
import DotMatrix.Proofs.Cpu.Cost

/-!
# The time that turns take

As long as the host leaves the bus to the processor, a turn takes the time of the step and of what
there was to pay for transfers, and not a cycle is lost where the processor is twice as fast as the
base clock. It takes at most 4156 cycles: a call out of HALT that starts a transfer of 128 blocks,
when a block of another transfer has yet to be paid for. So a run ends, less than a turn after what
was asked for.

Results:
* `Steady`, `turn_steady`: what a turn finds and leaves.
* `turn_cycles`: the time of a turn.
* `runFrom_turns`, `runFrom_within`: a run makes turns until it has reached its goal.
* `Undisturbed.steady`: the consoles whose bus is left to the processor.
* **`undisturbed_pace`**: the time of their steps, turns and runs.
-/

namespace DotMatrix

namespace Core

variable {m : Core}

/-- What a turn finds: the transfer is tracked, and there is a block to pay for at most. -/
structure Steady (m : Core) : Prop where
  known : m.bus.Known
  light : m.bus.Light

theorem step_charged (m : Core) : m.bus.Charged m.step.1.bus :=
  m.step_accessed.charged

theorem turn_base (m : Core) :
    m.turn.2 = m.step.1.bus.baseCycles (m.step.2 + m.step.1.bus.stall) := rfl

/-- A turn leaves what the next one needs. -/
theorem turn_steady (h : m.Steady) : m.turn.1.Steady := by
  refine ⟨turn_keeps Bus.tracked_invariant h.known, ?_⟩
  obtain ⟨asked, tracked⟩ := step_keeps Bus.tracked_invariant h.known
  obtain ⟨-, -, most⟩ := m.step_cost
  rw [turn_bus]
  exact Bus.step_light (b := m.step.1.bus.takeStall) tracked.attained.idle rfl
    ((step_charged m).base_le h.light most).2

/-- **The time of a turn**: an even number of cycles of the base clock, as many as the step and the
transfers have cost, or half as many in double speed. -/
theorem turn_cycles (h : m.Steady) :
    (2 ∣ m.turn.2 ∧ 2 ≤ m.turn.2 ∧ m.turn.2 ≤ 4156) ∧
      (if m.step.1.bus.doubleSpeed then 2 * m.turn.2 else m.turn.2) =
        m.step.2 + m.step.1.bus.stall := by
  obtain ⟨whole, least, most⟩ := m.step_cost
  obtain ⟨blocks, -⟩ := (step_charged m).stall_le h.light
  have cycles : 4 ∣ m.step.2 + m.step.1.bus.stall :=
    Nat.dvd_add whole (Nat.dvd_trans (by decide) blocks)
  obtain ⟨even, some, account⟩ :=
    m.step.1.bus.baseCycles_whole cycles (Nat.le_add_right_of_le least)
  rw [turn_base]
  exact ⟨⟨even, some, ((step_charged m).base_le h.light most).1⟩, account⟩

/-! ## Runs -/

/-- The machine after some turns, and the cycles of the base clock that they have taken. -/
def turns (m : Core) : Nat → Core × Nat
  | 0 => (m, 0)
  | k + 1 => ((m.turn.1.turns k).1, m.turn.2 + (m.turn.1.turns k).2)

/-- A run makes turns as long as its goal has not been reached. -/
theorem runFrom_turns (m : Core) (goal elapsed : Nat) :
    ∃ k, m.runFrom goal elapsed = ((m.turns k).1, elapsed + (m.turns k).2) ∧
      ∀ j < k, elapsed + (m.turns j).2 < goal := by
  fun_induction runFrom m goal elapsed with
  | case1 m elapsed more next ih =>
    obtain ⟨k, ran, before⟩ := ih
    refine ⟨k + 1, ?_, fun j hj => ?_⟩
    · rw [ran, turns, Nat.add_assoc]
    · cases j with
      | zero => exact more
      | succ j =>
        rw [turns, ← Nat.add_assoc]
        exact before j (Nat.lt_of_succ_lt_succ hj)
  | case2 m elapsed done => exact ⟨0, rfl, fun j hj => absurd hj (Nat.not_lt_zero j)⟩

theorem runFrom_steady (h : m.Steady) (goal elapsed : Nat) :
    (m.runFrom goal elapsed).1.Steady := by
  fun_induction runFrom m goal elapsed with
  | case1 m elapsed more next ih => exact ih (turn_steady h)
  | case2 m elapsed done => exact h

/-- It ends where the goal has been reached, and by less than a turn beyond. -/
theorem runFrom_within (h : m.Steady) {goal elapsed : Nat} (early : elapsed < goal + 4156) :
    goal ≤ (m.runFrom goal elapsed).2 ∧ (m.runFrom goal elapsed).2 < goal + 4156 := by
  fun_induction runFrom m goal elapsed with
  | case1 m elapsed more next ih =>
    obtain ⟨⟨-, -, most⟩, -⟩ := turn_cycles h
    exact ih (turn_steady h) (Nat.add_lt_add_of_lt_of_le more most)
  | case2 m elapsed done => exact ⟨Nat.le_of_not_lt done, early⟩

end Core

namespace Console

/-- The consoles whose bus is left to the processor: the host puts cartridges in, lets time pass,
presses buttons and resets. -/
inductive Undisturbed : Console → Prop where
  | new (settings : Settings) : Undisturbed (Console.new settings)
  | load {c c' : Console} {rom : Rom} : Undisturbed c → c.load rom = .ok c' → Undisturbed c'
  | turn {c : Console} : Undisturbed c → Undisturbed c.turn.1
  | run {c : Console} (cycles : Nat) : Undisturbed c → Undisturbed (c.run cycles).1
  | frame {c : Console} : Undisturbed c → Undisturbed c.runFrame.1
  | setButtons {c : Console} (mask : UInt8) (down : Bool) :
      Undisturbed c → Undisturbed (c.setButtons mask down)
  | reset {c : Console} : Undisturbed c → Undisturbed c.reset

variable {c c' : Console}

theorem resetTo_steady (c : Console) (model : Model) : (c.resetTo model).core.Steady where
  known := resetTo_lasting Bus.known_lasting c model
  light := .inl rfl

theorem countFrame_steady (h : c.core.Steady) : c.countFrame.core.Steady := by
  rw [countFrame_core]
  split
  · exact ⟨h.known.aside rfl rfl, h.light⟩
  · exact h

/-- There is never more than one block to pay for. -/
theorem Undisturbed.steady (h : c.Undisturbed) : c.core.Steady := by
  induction h with
  | new settings => exact ⟨applySettings_lasting Bus.known_lasting ⟨_, .new _⟩, .inl rfl⟩
  | load _ loaded _ =>
    obtain ⟨header, model, -, rfl⟩ := load_ok loaded
    exact resetTo_steady _ model
  | turn _ ih => exact Core.turn_steady ih
  | run cycles _ ih => exact Core.runFrom_steady ih cycles 0
  | frame _ ih => exact countFrame_steady (Core.runFrom_steady ih cyclesPerFrame 0)
  | setButtons mask down _ ih => exact ⟨ih.known.aside rfl rfl, ih.light⟩
  | reset _ _ => exact resetTo_steady _ _

/-- **The pace of a console** whose bus is left to the processor. A step costs a multiple of four
cycles, from 4 to 28. A turn takes an even number of cycles of the base clock, from 2 to 4156: as
many as the step has cost and there was to pay for transfers, or half as many in double speed. A run
makes turns as long as what was asked for has not passed, and ends by less than 4156 cycles beyond;
so 32 bits are enough to count for any request up to `2 ^ 32 - 4156`. -/
theorem undisturbed_pace (h : c.Undisturbed) :
    (4 ∣ c.core.step.2 ∧ 4 ≤ c.core.step.2 ∧ c.core.step.2 ≤ 28) ∧
      (2 ∣ c.turn.2 ∧ 2 ≤ c.turn.2 ∧ c.turn.2 ≤ 4156) ∧
      (if c.core.step.1.bus.doubleSpeed then 2 * c.turn.2 else c.turn.2) =
        c.core.step.2 + c.core.step.1.bus.stall ∧
      ∀ cycles, (∃ k, c.core.run cycles = c.core.turns k ∧
          ∀ j < k, (c.core.turns j).2 < cycles) ∧
        cycles ≤ (c.run cycles).2 ∧ (c.run cycles).2 < cycles + 4156 := by
  obtain ⟨range, account⟩ := Core.turn_cycles h.steady
  refine ⟨c.core.step_cost, range, account, fun cycles => ⟨?_, ?_⟩⟩
  · obtain ⟨k, ran, before⟩ := c.core.runFrom_turns cycles 0
    simp only [Nat.zero_add] at ran before
    exact ⟨k, ran, before⟩
  · exact Core.runFrom_within h.steady (Nat.add_pos_right cycles (by decide))

/-- A console that has just been started: its first step is a HALT, and it is run for a frame. -/
theorem undisturbed_pace_sleeping :
    sleeping.Undisturbed ∧ sleeping.turn.2 = 4 ∧
      cyclesPerFrame ≤ (sleeping.run cyclesPerFrame).2 ∧
      (sleeping.run cyclesPerFrame).2 < cyclesPerFrame + 4156 := by
  have started : sleeping.Undisturbed := (Undisturbed.new {}).load sleeping_loaded
  obtain ⟨-, bus, cost⟩ := Core.step_halt rfl rfl rfl rfl (sleeper_opcode rfl sleeping_cart)
  have slow : sleeping.core.bus.doubleSpeed = false := rfl
  have free : sleeping.core.bus.stall = 0 := rfl
  obtain ⟨-, -, account, runs⟩ := undisturbed_pace started
  rw [bus, cost, slow, free, if_neg Bool.false_ne_true] at account
  exact ⟨started, account, (runs cyclesPerFrame).2⟩

end Console

end DotMatrix
