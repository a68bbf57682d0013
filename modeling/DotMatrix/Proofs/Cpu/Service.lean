import DotMatrix.Proofs.Bus.Requests
import DotMatrix.Proofs.Cpu.Accesses
import DotMatrix.Proofs.Cpu.Dispatch

/-!
# How interrupts are served

A step of the processor serves an interrupt exactly when the master enable is on and a request is
pending that is enabled: the pending request with the lowest bit, whose bit is cleared before the
program counter is pushed. Every other step loses no request, unless it writes to the request byte.

Results:
* `Clean.write`, `step_clean`, `turn_clean`: the upper three bits of the request byte stay clear.
* **`step_serve`**: a step that serves an interrupt.
* **`step_added`**: a step that serves none.
-/

namespace DotMatrix

open Interrupt (Added)

namespace Bus

/-- The upper three bits of the request byte are clear. -/
def Clean (b : Bus) : Prop :=
  b.requests &&& 0xE0 = 0

variable {b b' : Bus}

theorem Clean.added (h : b.Clean) (added : Added b.requests b'.requests) : b'.Clean :=
  added.unused.trans h

theorem Clean.write (h : b.Clean) (addr : UInt16) (val : UInt8) : (b.write addr val).Clean := by
  by_cases here : addr = 0xFF0F
  · subst here
    rw [Clean, write_requests, UInt8.and_assoc]
    exact UInt8.and_zero
  · exact h.added (write_added b here val)

theorem Clean.step (h : b.Clean) (cycles : Nat) : (b.step cycles).Clean :=
  h.added (step_added b cycles)

theorem Clean.acknowledge (h : b.Clean) (i : Interrupt) :
    Clean { b with requests := i.acknowledge b.requests } := by
  change b.requests &&& ~~~i.mask &&& 0xE0 = 0
  rw [UInt8.and_assoc, UInt8.and_comm _ 0xE0, ← UInt8.and_assoc, h, UInt8.zero_and]

/-- An instruction loses no request, unless it writes to the request byte. -/
theorem Reached.added {addrs : List UInt16} (h : b.Reached addrs b') (other : 0xFF0F ∉ addrs) :
    Added b.requests b'.requests := by
  cases h with
  | nothing | spoilOam | report => exact .refl _
  | write addr val => exact write_added b (List.ne_of_not_mem_cons other).symm val
  | @writeTwo first second _ val val' =>
    simp only [List.mem_cons, List.not_mem_nil, or_false, not_or] at other
    exact (write_added b (Ne.symm other.1) val).trans (write_added _ (Ne.symm other.2) val')
  | switchSpeed notice => exact switchSpeed_added b

theorem Clean.reached {addrs : List UInt16} (h : b.Clean) (reached : b.Reached addrs b') :
    b'.Clean := by
  cases reached with
  | nothing | spoilOam | report => exact h
  | write addr val => exact h.write addr val
  | writeTwo _ val val' => exact (h.write _ val).write _ val'
  | switchSpeed notice => exact h.added (switchSpeed_added b)

end Bus

namespace Core

variable (m : Core)

/-! ## Steps that serve an interrupt -/

/-- The machine after the interrupt with number `i` has been served: its request is cleared, the
program counter is pushed, high byte first, and the processor continues at the handler with the
master enable off. -/
def serve (i : Nat) : Core :=
  let bus := { m.bus with requests := m.bus.requests &&& ~~~(1 <<< i.toUInt8) }
  { cpu := { m.cpu with
      ime := false, halted := false, sp := m.cpu.sp - 2, pc := 0x40 + 8 * i.toUInt16 }
    bus := (bus.write (m.cpu.sp - 1) (highByte m.cpu.pc)).write (m.cpu.sp - 2) (lowByte m.cpu.pc) }

theorem dispatch_serve : m.wake.dispatch = m.serve (Interrupt.first m.pending).number := by
  have two : m.cpu.sp - 2 = m.cpu.sp - 1 - 1 := by
    grind
  rw [serve, ← Interrupt.mask_eq, ← Interrupt.vector_eq, two]
  rfl

/-- **A step that serves an interrupt** serves the pending one with the lowest bit. -/
theorem step_serve (h : m.dispatches = true) : ∃ i < 5, m.pending.toNat.testBit i = true ∧
    (∀ j < i, m.pending.toNat.testBit j = false) ∧ m.step.1 = m.serve i := by
  have some : m.pending ≠ 0 := by
    simp only [dispatches, Bool.and_eq_true, bne_iff_ne] at h
    exact h.2
  have used : m.pending.toNat < 32 :=
    UInt8.lt_iff_toNat_lt.mp (and_lt (by decide : (0x1F : UInt8) < 32) _)
  obtain ⟨bit, lowest⟩ := Interrupt.first_lowest some used
  refine ⟨(Interrupt.first m.pending).number, Interrupt.number_lt _, bit, lowest, ?_⟩
  rw [step_of_dispatches h, dispatch_serve]

/-! ## Other steps -/

/-- The machine when it has fetched the opcode of the next instruction. -/
def fetched : Core :=
  m.wake.settleEnable.passOpcode

/-- The addresses that the next step writes to, when it serves no interrupt. -/
def stores : List UInt16 :=
  match m.opcode? with
  | some opcode => m.fetched.targets (Instruction.decode opcode)
  | none => []

theorem step_reached (h : m.dispatches = false) : m.bus.Reached m.stores m.step.1.bus := by
  cases next : m.opcode? with
  | none =>
    rw [stores, next, step_of_idle h next]
    exact .nothing
  | some opcode =>
    obtain ⟨stepped, read⟩ := step_of_opcode next
    have reached := runInstruction_reached m.wake
    rw [settleEnable_read] at reached
    rw [stores, next, stepped, ← read]
    exact reached

/-- A step that serves none idles or carries out an instruction. -/
theorem step_unserved (h : m.dispatches = false) : m.step.1 =
    if m.cpu.halted = true ∧ m.pending = 0 then m else m.wake.runInstruction.1 := by
  have served : ¬ m.dispatches = true := Bool.eq_false_iff.mp h
  split
  next idle =>
    refine step_of_idle h ?_
    rw [opcode?, if_neg served, if_pos]
    rw [idle.1, idle.2]
    rfl
  next busy =>
    have next : m.opcode? = some (m.read m.cpu.pc) := by
      rw [opcode?, if_neg served, if_neg]
      simpa using busy
    exact (step_of_opcode next).1

/-- **A step that serves none** loses no request, unless it writes to the request byte. -/
theorem step_added (h : m.dispatches = false) (other : 0xFF0F ∉ m.stores) :
    Added m.bus.requests m.step.1.bus.requests :=
  (step_reached m h).added other

/-! ## The upper bits -/

variable {m}

theorem dispatch_clean (h : m.bus.Clean) : m.dispatch.bus.Clean :=
  ((h.acknowledge _).write _ _).write _ _

theorem step_clean (h : m.bus.Clean) : m.step.1.bus.Clean := by
  cases served : m.dispatches with
  | true =>
    rw [step_of_dispatches served]
    exact dispatch_clean (m := m.wake) h
  | false => exact h.reached (step_reached m served)

theorem turn_clean (h : m.bus.Clean) : m.turn.1.bus.Clean :=
  Bus.Clean.step (b := m.step.1.bus.takeStall) (step_clean h) _

end Core

end DotMatrix
