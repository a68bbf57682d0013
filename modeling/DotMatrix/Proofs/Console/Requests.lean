import DotMatrix.Proofs.Console.Lasting
import DotMatrix.Proofs.Cpu.Service

/-!
# Interrupt requests in a console

The upper three bits of the request byte of a console are clear, and no request is lost: time,
buttons and writes elsewhere add requests, and so do the steps of the processor. A step that serves an
interrupt clears one bit, that of the interrupt.

Results:
* `clean_lasting`: the upper bits of the request byte.
* **`requests_kept`**: what happens to requests.
* `requests_kept_enabling`: a console that is about to serve an interrupt.
-/

namespace DotMatrix

open Interrupt (Added)

/-- That the upper three bits are clear lasts. -/
theorem Bus.clean_lasting : Bus.Lasting Bus.Clean where
  reset b model := by
    have requests : (b.reset model).requests = 0x01 := by
      simp only [reset, remap]
    rw [Clean, requests]
    decide
  aside {b b'} h same := by
    have requests : b'.board.requests = b.board.requests := congrArg Bus.requests same
    exact (congrArg (· &&& 0xE0) requests).trans h
  turn h := Core.turn_clean h
  setButtons {b} h mask down := h.added (setButtons_added b mask down)
  write h := h.write
  restore {live saved core} h fits restored := by
    obtain ⟨bus, joined, rfl⟩ := Snapshot.restore_ok fits restored
    obtain ⟨-, -, cart, -, rfl⟩ := Snapshot.joinBus_ok joined
    unfold Clean remap
    exact h

namespace Console

variable {c : Console}

/-- **Requests are never lost** in a console that can be reached, and the upper three bits of the
request byte are clear. The processor serves an interrupt exactly when the master enable is on and a
request is pending that is enabled: then the lowest such bit is cleared before the program counter
is pushed (`serve`). Any other step idles or carries out an instruction, and like time, buttons and
writes it only adds requests, unless it writes to the request byte. -/
theorem requests_kept (h : c.Reachable) :
    let m := c.core
    let b := c.core.bus
    b.requests &&& 0xE0 = 0 ∧
    (∀ cycles, Added b.requests (b.step cycles).requests) ∧
    (∀ mask down, Added b.requests (b.setButtons mask down).requests) ∧
    (∀ addr val, addr ≠ 0xFF0F → Added b.requests (b.write addr val).requests) ∧
    (if m.cpu.ime = true ∧ b.requests &&& b.enables &&& 0x1F ≠ 0 then
      ∃ i < 5, (b.requests &&& b.enables &&& 0x1F).toNat.testBit i = true ∧
        (∀ j < i, (b.requests &&& b.enables &&& 0x1F).toNat.testBit j = false) ∧
        m.step.1 = m.serve i
    else
      (m.step.1 = if m.cpu.halted = true ∧ b.requests &&& b.enables &&& 0x1F = 0 then m
          else m.wake.runInstruction.1) ∧
        (0xFF0F ∉ m.stores → Added b.requests m.step.1.bus.requests)) ∧
    m.step.1.bus.requests &&& 0xE0 = 0 ∧
    Added m.step.1.bus.requests m.turn.1.bus.requests := by
  have clean : c.core.bus.Clean := h.lasting Bus.clean_lasting
  refine ⟨clean, Bus.step_added _, Bus.setButtons_added _, fun addr val other =>
    Bus.write_added _ other val, ?_, Core.step_clean clean,
    Bus.step_added c.core.step.1.bus.takeStall _⟩
  have condition : c.core.dispatches = true ↔ c.core.cpu.ime = true ∧
      c.core.bus.requests &&& c.core.bus.enables &&& 0x1F ≠ 0 := by
    rw [Core.dispatches, Bool.and_eq_true, bne_iff_ne]
    rfl
  split
  next served => exact Core.step_serve c.core (condition.mpr served)
  next none =>
    have other : c.core.dispatches = false := Bool.eq_false_iff.mpr fun served =>
      none (condition.mp served)
    exact ⟨Core.step_unserved c.core other, Core.step_added c.core other⟩

/-- A console in which the host has written EI into high memory, enabled the VBlank interrupt that is
requested at power-up, and set the processor to the program. -/
def enabling : Console :=
  let c := (Console.new {}).perform
    [.write 0xFF80 0xFB, .write 0xFF81 0x00, .write 0xFFFF 0x01]
  { c with core := c.core.onCpu fun r => r.set .pc 0xFF80 }

theorem enabling_reachable : enabling.Reachable :=
  .setRegister .pc 0xFF80
    (.act (.write 0xFFFF 0x01) (.act (.write 0xFF81 0x00) (.act (.write 0xFF80 0xFB) (.new {}))))

/-- After EI and the instruction behind it, the VBlank interrupt is served. -/
theorem requests_kept_enabling :
    let c := (enabling.act .turn).act .turn
    c.Reachable ∧ c.core.bus.requests &&& 0xE0 = 0 ∧ ∃ i < 5, c.core.step.1 = c.core.serve i := by
  have reachable : ((enabling.act .turn).act .turn).Reachable :=
    .act .turn (.act .turn enabling_reachable)
  have pending : ((enabling.act .turn).act .turn).core.cpu.ime = true ∧
      ((enabling.act .turn).act .turn).core.bus.requests &&&
        ((enabling.act .turn).act .turn).core.bus.enables &&& 0x1F ≠ 0 := by
    decide +kernel
  have kept := requests_kept reachable
  -- The console is evaluated no further.
  generalize (enabling.act .turn).act .turn = c at reachable pending kept ⊢
  obtain ⟨clean, -, -, -, step, -⟩ := kept
  rw [if_pos pending] at step
  obtain ⟨i, few, -, -, served⟩ := step
  exact ⟨reachable, clean, i, few, served⟩

end Console

end DotMatrix
