import DotMatrix.Cpu.Run
import DotMatrix.Proofs.Cpu.Switches
import Mathlib.Tactic.ByContra
import Mathlib.Tactic.Tauto

/-!
# Interrupts after a dispatch

A dispatch turns the master enable off, but not its delayed form: an EI that was carried out just
before the dispatch still takes effect after the first instruction of the handler. So interrupts
stay off until the handler turns them on exactly when no EI was waiting, or when the handler starts
with one of the three instructions that deal with the switches.

A `Schedule` says what may happen between two steps of the processor: anything to the bus, nothing
to the registers. `Quiet` runs carry out neither EI nor RETI.

Results:
* `step_quiet`: with both switches off, a step that is neither EI nor RETI leaves them off.
* `quiet_run`: so does a whole quiet run, and none of its steps serves an interrupt.
* **`dispatch_quiet_iff`**: the condition, for every machine and every schedule.
* `dispatch_not_quiet`: a machine that breaks it.
-/

namespace DotMatrix

namespace Core

/-- The next step serves an interrupt. -/
def dispatches (m : Core) : Bool :=
  m.cpu.ime && m.pending != 0

/-- The opcode that the next step carries out, if it neither idles nor serves an interrupt. -/
def opcode? (m : Core) : Option UInt8 :=
  if m.dispatches then none
  else if m.cpu.halted && m.pending == 0 then none
  else some (m.read m.cpu.pc)

/-- The next step carries out EI or RETI. -/
def enables (m : Core) : Bool :=
  m.opcode? == some 0xFB || m.opcode? == some 0xD9

/-! ## Steps by kind -/

theorem wake_of_running {m : Core} (h : m.cpu.halted = false) : m.wake = m := by
  simp only [wake, onCpu, ← h]

theorem step_of_dispatches {m : Core} (h : m.dispatches = true) :
    m.step.1 = m.wake.dispatch := by
  simp only [dispatches, Bool.and_eq_true, bne_iff_ne, ne_eq] at h
  obtain ⟨ime, pending⟩ := h
  cases halted : m.cpu.halted with
  | true => simp [step, halted, pending, ime]
  | false => simp [step, halted, pending, ime, wake_of_running halted]

theorem step_of_opcode {m : Core} {opcode : UInt8} (h : m.opcode? = some opcode) :
    m.step.1 = m.wake.runInstruction.1 ∧ m.read m.cpu.pc = opcode := by
  by_cases served : m.dispatches = true
  · rw [opcode?, if_pos served] at h
    cases h
  rw [opcode?, if_neg served] at h
  by_cases idle : (m.cpu.halted && m.pending == 0) = true
  · rw [if_pos idle] at h
    cases h
  rw [if_neg idle] at h
  refine ⟨?_, Option.some.inj h⟩
  unfold dispatches at served
  cases halted : m.cpu.halted with
  | true => simp_all [step]
  | false =>
    have running : ¬ m.cpu.halted = true := by simp [halted]
    rw [wake_of_running halted, step, if_neg running, if_neg served]

theorem step_of_idle {m : Core} (served : m.dispatches = false) (h : m.opcode? = none) :
    m.step.1 = m := by
  rw [opcode?, if_neg (by rw [served]; exact Bool.false_ne_true)] at h
  by_cases idle : (m.cpu.halted && m.pending == 0) = true
  · simp only [Bool.and_eq_true, beq_iff_eq] at idle
    simp [step, idle.1, idle.2]
  · rw [if_neg idle] at h
    cases h

/-! ## What a step does to the switches -/

theorem settleEnable_read (m : Core) :
    m.settleEnable.read m.settleEnable.cpu.pc = m.read m.cpu.pc := by
  unfold settleEnable
  split <;> rfl

theorem passOpcode_switches (m : Core) : m.passOpcode.switches = m.switches := by
  unfold passOpcode
  split <;> rfl

/-- The switches after the instruction that follows EI. -/
theorem settleEnable_switches (m : Core) :
    m.settleEnable.switches = (m.cpu.ime || m.cpu.imePending, false) := by
  unfold settleEnable
  cases pending : m.cpu.imePending with
  | true => simp [switches, onCpu]
  | false => simp [switches, pending]

/-- An instruction that leaves the switches alone lets a waiting EI take effect. -/
theorem runInstruction_switches {m : Core}
    (h : (Instruction.decode (m.read m.cpu.pc)).keepsSwitches = true) :
    m.runInstruction.1.switches = (m.cpu.ime || m.cpu.imePending, false) := by
  have settled := settleEnable_switches m
  simp only [runInstruction, settleEnable_read]
  rw [execute_switches _ h, passOpcode_switches, settled]

/-- DI turns both switches off. -/
theorem runInstruction_disable {m : Core}
    (h : Instruction.decode (m.read m.cpu.pc) = .disableInterrupts) :
    m.runInstruction.1.switches = (false, false) := by
  simp only [runInstruction, settleEnable_read, h]
  rfl

/-- A dispatch turns the master enable off and leaves its delayed form alone. -/
theorem dispatch_switches (m : Core) : m.dispatch.switches = (false, m.cpu.imePending) := by
  unfold dispatch
  exact callTo_switches _ _

theorem callTo_halted (m : Core) (addr : UInt16) : (m.callTo addr).cpu.halted = m.cpu.halted := rfl

theorem dispatch_halted (m : Core) : m.dispatch.cpu.halted = m.cpu.halted := by
  unfold dispatch
  exact callTo_halted _ _

/-- With both switches off, a step that is neither EI nor RETI leaves them off. -/
theorem step_quiet {m : Core} (off : m.switches = (false, false)) (h : m.enables = false) :
    m.step.1.switches = (false, false) := by
  obtain ⟨ime, imePending⟩ := Prod.mk.inj off
  have served : m.dispatches = false := by simp [dispatches, ime]
  cases next : m.opcode? with
  | none => rw [step_of_idle served next, off]
  | some opcode =>
    obtain ⟨stepped, fetched⟩ := step_of_opcode next
    have other : opcode ≠ 0xFB ∧ opcode ≠ 0xD9 := by simpa [enables, next] using h
    have read : m.wake.read m.wake.cpu.pc = opcode := fetched
    rw [stepped]
    by_cases disable : opcode = 0xF3
    · exact runInstruction_disable
        (by rw [read]; exact Instruction.decode_disableInterrupts.mpr disable)
    · rw [runInstruction_switches
        (by rw [read]; exact Instruction.decode_keeps other.1 other.2 disable)]
      simp [wake, onCpu, ime, imePending]

end Core

/-! ## Runs -/

/-- What may happen between two steps of the processor: anything to the bus, nothing to the
registers; and a machine always goes on. -/
structure Schedule where
  next : Core → Core → Prop
  cpu : ∀ {m m'}, next m m' → m'.cpu = m.step.1.cpu
  goesOn : ∀ m, ∃ m', next m m'

namespace Schedule

/-- Between two steps the devices are given the time of the first. -/
def turns : Schedule where
  next m m' := m' = m.turn.1
  cpu := by
    rintro m m' rfl
    rfl
  goesOn m := ⟨m.turn.1, rfl⟩

variable (s : Schedule)

/-- The runs that carry out neither EI nor RETI. -/
inductive Quiet : Core → Core → Prop where
  | refl (m : Core) : Quiet m m
  | tail {m n n' : Core} : Quiet m n → n.enables = false → s.next n n' → Quiet m n'

variable {s}

/-- With both switches off they stay off in every quiet run. -/
theorem quiet_run {m n : Core} (off : m.switches = (false, false)) (run : s.Quiet m n) :
    n.switches = (false, false) := by
  induction run with
  | refl => exact off
  | tail _ quiet goes ih =>
    have kept := Core.step_quiet ih quiet
    rw [Core.switches, s.cpu goes]
    exact kept

/-- The machine after a dispatch: it runs, and an EI that was waiting still waits. -/
theorem after_dispatch {m m1 : Core} (h : m.dispatches = true) (goes : s.next m m1) :
    m1.switches = (false, m.cpu.imePending) ∧ m1.opcode? = some (m1.read m1.cpu.pc) := by
  have cpu := s.cpu goes
  rw [Core.step_of_dispatches h] at cpu
  have switches : m1.switches = (false, m.cpu.imePending) := by
    rw [Core.switches, cpu]
    exact Core.dispatch_switches m.wake
  have halted : m1.cpu.halted = false := by
    rw [cpu, Core.dispatch_halted]
    rfl
  have ime : m1.cpu.ime = false := congrArg Prod.fst switches
  refine ⟨switches, ?_⟩
  simp [Core.opcode?, Core.dispatches, ime, halted]

/-- A handler that starts with DI, EI or RETI: a quiet run has not begun, or both switches are
off. -/
theorem quiet_handler {m1 n : Core} (off : m1.cpu.ime = false)
    (starts : m1.opcode? = some (m1.read m1.cpu.pc))
    (handled : m1.read m1.cpu.pc ∈ [0xF3, 0xFB, 0xD9]) (run : s.Quiet m1 n) :
    n = m1 ∨ n.switches = (false, false) := by
  induction run with
  | refl => exact .inl rfl
  | @tail prev next _ quiet goes ih =>
    right
    rw [Core.switches, s.cpu goes]
    rcases ih with rfl | both
    · have disable : prev.read prev.cpu.pc = 0xF3 := by
        simp only [List.mem_cons, List.not_mem_nil, or_false] at handled
        simp only [Core.enables, starts, Bool.or_eq_false_iff, beq_eq_false_iff_ne, ne_eq,
          Option.some.injEq] at quiet
        tauto
      rw [(Core.step_of_opcode starts).1]
      exact Core.runInstruction_disable (Instruction.decode_disableInterrupts.mpr disable)
    · exact Core.step_quiet both quiet

/-- A handler that starts otherwise: the EI that was waiting takes effect. -/
theorem waiting_handler {m1 m2 : Core} (waiting : m1.switches = (false, true))
    (starts : m1.opcode? = some (m1.read m1.cpu.pc))
    (other : m1.read m1.cpu.pc ∉ [0xF3, 0xFB, 0xD9]) (goes : s.next m1 m2) :
    m1.enables = false ∧ m2.cpu.ime = true := by
  simp only [List.mem_cons, List.not_mem_nil, or_false, not_or] at other
  obtain ⟨disable, enable, ret⟩ := other
  refine ⟨by simp [Core.enables, starts, enable, ret], ?_⟩
  have keeps := Instruction.decode_keeps enable ret disable
  have stepped : m1.wake.runInstruction.1.switches = _ := Core.runInstruction_switches keeps
  rw [← (Core.step_of_opcode starts).1] at stepped
  rw [s.cpu goes]
  have on : (m1.wake.cpu.ime || m1.wake.cpu.imePending) = true := by
    obtain ⟨-, imePending⟩ := Prod.mk.inj waiting
    change (m1.cpu.ime || m1.cpu.imePending) = true
    rw [imePending, Bool.or_true]
  exact (congrArg Prod.fst stepped).trans on

/-- After a dispatch interrupts stay off until the handler turns them on, exactly if no EI was
waiting for its effect when the interrupt was served, or the handler starts with DI, EI or RETI. -/
theorem dispatch_quiet_iff {m : Core} (h : m.dispatches = true) :
    (∀ m1 n, s.next m m1 → s.Quiet m1 n → n.cpu.ime = false ∧ n.dispatches = false) ↔
      m.cpu.imePending = false ∨
        ∀ m1, s.next m m1 → m1.read m1.cpu.pc ∈ [0xF3, 0xFB, 0xD9] := by
  constructor
  · intro quiet
    by_cases waiting : m.cpu.imePending = true
    · right
      intro m1 goes
      by_contra other
      obtain ⟨switches, starts⟩ := after_dispatch h goes
      obtain ⟨m2, goes2⟩ := s.goesOn m1
      rw [waiting] at switches
      obtain ⟨silent, on⟩ := waiting_handler switches starts other goes2
      have off := (quiet m1 m2 goes (.tail (.refl m1) silent goes2)).1
      rw [on] at off
      cases off
    · exact .inl (Bool.not_eq_true _ ▸ waiting)
  · intro condition m1 n goes run
    obtain ⟨switches, starts⟩ := after_dispatch h goes
    have off : n.cpu.ime = false := by
      rcases condition with idle | handled
      · rw [idle] at switches
        exact congrArg Prod.fst (quiet_run switches run)
      · have first := congrArg Prod.fst switches
        rcases quiet_handler first starts (handled m1 goes) run with rfl | both
        · exact first
        · exact congrArg Prod.fst both
    exact ⟨off, by rw [Core.dispatches, off, Bool.false_and]⟩

/-- A machine without a cartridge in which the host has written a program into high memory, enabled
the VBlank interrupt that is requested at power-up, and set the processor to the program. -/
def hosted (first second : UInt8) : Core :=
  { cpu := (Cpu.boot .dmg).set .pc 0xFF80
    bus := (((Bus.new .dmg).write 0xFF80 first).write 0xFF81 second).write 0xFFFF 0x01 }

/-- With one EI and a plain instruction behind it, the interrupt that is served next stays the
only one. -/
theorem dispatch_quiet_single :
    (hosted 0xFB 0x00).turn.1.turn.1.dispatches = true ∧
      ∀ m1 n, turns.next (hosted 0xFB 0x00).turn.1.turn.1 m1 → turns.Quiet m1 n →
        n.cpu.ime = false ∧ n.dispatches = false := by
  have served : (hosted 0xFB 0x00).turn.1.turn.1.dispatches = true := by decide +kernel
  have idle : (hosted 0xFB 0x00).turn.1.turn.1.cpu.imePending = false := by decide +kernel
  exact ⟨served, (dispatch_quiet_iff served).mpr (.inl idle)⟩

/-- With two EI one behind the other, the first instruction of the handler turns the master enable
on again, though it is neither EI nor RETI. -/
theorem dispatch_not_quiet :
    ¬ ∀ m : Core, m.dispatches = true → ∀ m1 n, turns.next m m1 → turns.Quiet m1 n →
      n.cpu.ime = false ∧ n.dispatches = false := by
  intro claim
  have served : (hosted 0xFB 0xFB).turn.1.turn.1.dispatches = true := by decide +kernel
  have silent : (hosted 0xFB 0xFB).turn.1.turn.1.turn.1.enables = false := by decide +kernel
  have on : (hosted 0xFB 0xFB).turn.1.turn.1.turn.1.turn.1.cpu.ime = true := by decide +kernel
  have off := (claim _ served _ _ rfl (.tail (.refl _) silent rfl)).1
  rw [on] at off
  cases off

end Schedule

end DotMatrix
