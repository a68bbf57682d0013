import DotMatrix.Cpu.Run
import DotMatrix.Proofs.Bus.Layout

/-!
# Machines asleep

A halted processor that waits for no interrupt sleeps for ever. Time passes for the devices, and
neither the cartridge nor the enabled interrupts change.

Results:
* `turn_asleep`: a machine that is asleep stays asleep.
* `step_halt`, `turn_halt`: HALT does nothing but halt, and puts a machine to sleep.
* **`run_sleepy`**: so it is asleep after any time, with the same cartridge.
-/

namespace DotMatrix

namespace Core

variable {m : Core}

/-- The processor is halted, and waits for no interrupt. -/
structure Asleep (m : Core) : Prop where
  halted : m.cpu.halted = true
  enables : m.bus.enables = 0

/-- The next turn leaves the machine asleep, and its cartridge as it is. -/
def Sleepy (m : Core) : Prop :=
  m.turn.1.Asleep ∧ m.turn.1.bus.cart = m.bus.cart

/-- After its step a turn is time for the devices, with what there was to pay for transfers. -/
theorem turn_bus (m : Core) :
    m.turn.1.bus = m.step.1.bus.takeStall.step (m.step.2 + m.step.1.bus.stall) := rfl

theorem charge_held (m : Core) (cost : Nat) : (m.charge cost).1.bus.held = m.bus.held :=
  Bus.step_held _ _

theorem pending_eq_zero (h : m.bus.enables = 0) : m.pending = 0 := by
  simp [pending, Interrupt.pending, h]

theorem sleepy_of_step (asleep : m.step.1.Asleep) (cart : m.step.1.bus.cart = m.bus.cart) :
    m.Sleepy := by
  have kept := charge_held m.step.1 m.step.2
  simp only [Bus.held, Prod.mk.injEq] at kept
  obtain ⟨-, same, enables⟩ := kept
  exact ⟨⟨asleep.halted, enables.trans asleep.enables⟩, same.trans cart⟩

/-- A machine that is asleep stays asleep. -/
theorem turn_asleep (h : m.Asleep) : m.Sleepy := by
  have step : m.step.1 = m := by
    rw [step, if_pos h.halted, if_pos (by rw [pending_eq_zero h.enables]; rfl)]
  refine sleepy_of_step ?_ ?_
  · rw [step]
    exact h
  · rw [step]

theorem runFrom_asleep (h : m.Asleep) (goal elapsed : Nat) :
    (m.runFrom goal elapsed).1.Asleep ∧ (m.runFrom goal elapsed).1.bus.cart = m.bus.cart := by
  fun_induction runFrom m goal elapsed with
  | case1 m elapsed more next =>
    rename_i ih
    obtain ⟨asleep, cart⟩ := turn_asleep h
    obtain ⟨later, cart'⟩ := ih asleep
    exact ⟨later, cart'.trans cart⟩
  | case2 m elapsed done => exact ⟨h, rfl⟩

/-- A machine that falls asleep with its next turn is asleep after any time. -/
theorem run_sleepy (h : m.Sleepy) {cycles : Nat} (some : 0 < cycles) :
    (m.run cycles).1.Asleep ∧ (m.run cycles).1.bus.cart = m.bus.cart := by
  rw [run, runFrom, if_pos some]
  obtain ⟨asleep, cart⟩ := runFrom_asleep h.1 cycles (0 + m.turn.2)
  exact ⟨asleep, cart.trans h.2⟩

theorem halt_asleep (idle : m.bus.enables = 0) :
    m.halt = m.onCpu fun r => { r with halted := true } := by
  have waiting : Interrupt.pending m.bus.requests m.bus.enables = 0 := pending_eq_zero idle
  rw [halt, waiting, if_neg (by simp)]

/-- HALT is an instruction of four cycles that does nothing but halt, where no interrupt waits. -/
theorem step_halt (idle : m.bus.enables = 0) (awake : m.cpu.halted = false)
    (off : m.cpu.ime = false) (settled : m.cpu.imePending = false)
    (opcode : m.read m.cpu.pc = 0x76) :
    m.step.1.cpu.halted = true ∧ m.step.1.bus = m.bus ∧ m.step.2 = 4 := by
  have still : m.settleEnable = m := by rw [settleEnable, settled, if_neg (by decide)]
  have passed : m.passOpcode.bus = m.bus := by
    unfold passOpcode
    split <;> rfl
  have runs : m.step = m.runInstruction := by
    simp only [step, awake, off, Bool.false_and, Bool.false_eq_true, if_false]
  have halts : m.step = (m.passOpcode.halt, m.passOpcode.costOf .halt) := by
    have decoded : Instruction.decode 0x76 = .halt := rfl
    simp only [runs, runInstruction, still, opcode, decoded, execute]
  rw [halts, halt_asleep (passed ▸ idle)]
  exact ⟨rfl, passed, rfl⟩

/-- HALT puts a machine to sleep that waits for no interrupt. -/
theorem turn_halt (idle : m.bus.enables = 0) (awake : m.cpu.halted = false)
    (off : m.cpu.ime = false) (settled : m.cpu.imePending = false)
    (opcode : m.read m.cpu.pc = 0x76) : m.Sleepy := by
  obtain ⟨halted, bus, -⟩ := step_halt idle awake off settled opcode
  exact sleepy_of_step ⟨halted, bus ▸ idle⟩ (congrArg Bus.cart bus)

/-- Its turn is four cycles for the devices, beside the cost of transfers. -/
theorem turn_halt_bus (idle : m.bus.enables = 0) (awake : m.cpu.halted = false)
    (off : m.cpu.ime = false) (settled : m.cpu.imePending = false)
    (opcode : m.read m.cpu.pc = 0x76) :
    m.turn.1.bus = m.bus.takeStall.step (4 + m.bus.stall) := by
  obtain ⟨-, bus, cost⟩ := step_halt idle awake off settled opcode
  rw [turn_bus, bus, cost]

end Core

end DotMatrix
