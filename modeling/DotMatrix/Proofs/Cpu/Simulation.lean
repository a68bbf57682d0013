import DotMatrix.Cpu.Run

/-!
# Relations that the processor respects

The processor reaches the bus through a handful of accesses. A relation between buses that all of
them respect (`Bus.Simulation`) is respected by every instruction, every turn and every run: the
registers stay the same on both sides, and the same time passes. A property of single buses is such
a relation too, between a bus and itself.

Results:
* `execute_under`: one instruction.
* `step_under`, `turn_under`: one step, and one turn.
* **`run_under`**: turns until some time has passed.
* `step_keeps`, `turn_keeps`, `run_keeps`: the same for a property of single buses.
-/

namespace DotMatrix

/-- A relation of buses that no access of the processor tells apart, and that all respect. -/
structure Bus.Simulation (R : Bus → Bus → Prop) : Prop where
  read : ∀ {b b'}, R b b' → ∀ addr, b.read addr = b'.read addr
  write : ∀ {b b'}, R b b' → ∀ addr val, R (b.write addr val) (b'.write addr val)
  requests : ∀ {b b'}, R b b' → b.requests = b'.requests
  enables : ∀ {b b'}, R b b' → b.enables = b'.enables
  acknowledge : ∀ {b b'}, R b b' → ∀ requests,
    R { b with requests := requests } { b' with requests := requests }
  spoilOam : ∀ {b b'}, R b b' →
    R { b with video := b.video.spoilOam } { b' with video := b'.video.spoilOam }
  speedArmed : ∀ {b b'}, R b b' → b.speedArmed = b'.speedArmed
  doubleSpeed : ∀ {b b'}, R b b' → b.doubleSpeed = b'.doubleSpeed
  switchSpeed : ∀ {b b'}, R b b' → R b.switchSpeed b'.switchSpeed
  report : ∀ {b b'}, R b b' → ∀ notice, R (b.report notice) (b'.report notice)
  stall : ∀ {b b'}, R b b' → b.stall = b'.stall
  takeStall : ∀ {b b'}, R b b' → R b.takeStall b'.takeStall
  step : ∀ {b b'}, R b b' → ∀ cycles, R (b.step cycles) (b'.step cycles)

/-- A property of buses that all accesses of the processor keep. -/
structure Bus.Invariant (P : Bus → Prop) : Prop where
  write : ∀ {b}, P b → ∀ addr val, P (b.write addr val)
  acknowledge : ∀ {b}, P b → ∀ requests, P { b with requests := requests }
  spoilOam : ∀ {b}, P b → P { b with video := b.video.spoilOam }
  switchSpeed : ∀ {b}, P b → P b.switchSpeed
  report : ∀ {b}, P b → ∀ notice, P (b.report notice)
  takeStall : ∀ {b}, P b → P b.takeStall
  step : ∀ {b}, P b → ∀ cycles, P (b.step cycles)

/-- One bus with the property on both sides. -/
theorem Bus.Invariant.simulation {P : Bus → Prop} (inv : Bus.Invariant P) :
    Bus.Simulation fun b b' => b = b' ∧ P b where
  read := by
    rintro b _ ⟨rfl, -⟩ addr
    rfl
  write := by
    rintro b _ ⟨rfl, h⟩ addr val
    exact ⟨rfl, inv.write h addr val⟩
  requests := by
    rintro b _ ⟨rfl, -⟩
    rfl
  enables := by
    rintro b _ ⟨rfl, -⟩
    rfl
  acknowledge := by
    rintro b _ ⟨rfl, h⟩ requests
    exact ⟨rfl, inv.acknowledge h requests⟩
  spoilOam := by
    rintro b _ ⟨rfl, h⟩
    exact ⟨rfl, inv.spoilOam h⟩
  speedArmed := by
    rintro b _ ⟨rfl, -⟩
    rfl
  doubleSpeed := by
    rintro b _ ⟨rfl, -⟩
    rfl
  switchSpeed := by
    rintro b _ ⟨rfl, h⟩
    exact ⟨rfl, inv.switchSpeed h⟩
  report := by
    rintro b _ ⟨rfl, h⟩ notice
    exact ⟨rfl, inv.report h notice⟩
  stall := by
    rintro b _ ⟨rfl, -⟩
    rfl
  takeStall := by
    rintro b _ ⟨rfl, h⟩
    exact ⟨rfl, inv.takeStall h⟩
  step := by
    rintro b _ ⟨rfl, h⟩ cycles
    exact ⟨rfl, inv.step h cycles⟩

namespace Core

/-- Two machines with the same registers and related buses. -/
structure Under (R : Bus → Bus → Prop) (m m' : Core) : Prop where
  cpu : m.cpu = m'.cpu
  bus : R m.bus m'.bus

variable {R : Bus → Bus → Prop} {m m' : Core}

/-! ## Parts of instructions -/

theorem onCpu_under (h : Under R m m') (f : Cpu → Cpu) : Under R (m.onCpu f) (m'.onCpu f) :=
  ⟨congrArg f h.cpu, h.bus⟩

theorem skip_under (h : Under R m m') (n : UInt16) : Under R (m.skip n) (m'.skip n) :=
  onCpu_under h _

theorem goto_under (h : Under R m m') (addr : UInt16) : Under R (m.goto addr) (m'.goto addr) :=
  onCpu_under h _

theorem settleEnable_under (h : Under R m m') : Under R m.settleEnable m'.settleEnable := by
  unfold settleEnable
  rw [h.cpu]
  split
  · exact onCpu_under h _
  · exact h

theorem passOpcode_under (h : Under R m m') : Under R m.passOpcode m'.passOpcode := by
  unfold passOpcode
  rw [h.cpu]
  split
  · exact onCpu_under h _
  · exact skip_under h 1

section Accesses

variable (sim : Bus.Simulation R)
include sim

theorem read_under (h : Under R m m') (addr : UInt16) : m.read addr = m'.read addr :=
  sim.read h.bus addr

theorem immediate_under (h : Under R m m') : m.immediate = m'.immediate := by
  rw [immediate, immediate, h.cpu, read_under sim h]

theorem immediateWord_under (h : Under R m m') : m.immediateWord = m'.immediateWord := by
  rw [immediateWord, immediateWord, h.cpu, read_under sim h, read_under sim h]

theorem top_under (h : Under R m m') : m.top = m'.top := by
  rw [top, top, h.cpu, read_under sim h, read_under sim h]

theorem operand_under (h : Under R m m') (o : Operand) : m.operand o = m'.operand o := by
  cases o with
  | atHl => rw [operand, operand, h.cpu, read_under sim h]
  | _ => simp only [operand, h.cpu]

theorem write_under (h : Under R m m') (addr : UInt16) (val : UInt8) :
    Under R (m.write addr val) (m'.write addr val) :=
  ⟨h.cpu, sim.write h.bus addr val⟩

theorem setOperand_under (h : Under R m m') (o : Operand) (val : UInt8) :
    Under R (m.setOperand o val) (m'.setOperand o val) := by
  cases o with
  | atHl =>
    simp only [setOperand, h.cpu]
    exact write_under sim h _ val
  | _ =>
    simp only [setOperand]
    exact onCpu_under h _

theorem setFlagged_under (h : Under R m m') (o : Operand) (result : Flagged) :
    Under R (m.setFlagged o result) (m'.setFlagged o result) :=
  setOperand_under sim (onCpu_under h _) o result.value

theorem pushByte_under (h : Under R m m') (val : UInt8) :
    Under R (m.pushByte val) (m'.pushByte val) := by
  have moved := onCpu_under h fun r => { r with sp := r.sp - 1 }
  simp only [pushByte, moved.cpu]
  exact write_under sim moved _ val

theorem push_under (h : Under R m m') (w : UInt16) : Under R (m.push w) (m'.push w) :=
  pushByte_under sim (pushByte_under sim h _) _

theorem callTo_under (h : Under R m m') (addr : UInt16) :
    Under R (m.callTo addr) (m'.callTo addr) := by
  simp only [callTo, h.cpu]
  exact goto_under (push_under sim h _) addr

theorem returnBack_under (h : Under R m m') : Under R m.returnBack m'.returnBack := by
  simp only [returnBack, top_under sim h]
  exact goto_under (onCpu_under h _) _

theorem spoilAt_under (h : Under R m m') (p : Pair) : Under R (m.spoilAt p) (m'.spoilAt p) := by
  unfold spoilAt
  rw [h.cpu]
  split
  · exact ⟨rfl, sim.spoilOam h.bus⟩
  · exact h

theorem moveWord_under (h : Under R m m') (p : Pair) (d : UInt16) :
    Under R (m.moveWord p d) (m'.moveWord p d) :=
  onCpu_under (spoilAt_under sim h p) _

theorem storeSp_under (h : Under R m m') : Under R m.storeSp m'.storeSp := by
  simp only [storeSp, immediateWord_under sim h, h.cpu]
  exact write_under sim (write_under sim (skip_under h 2) _ _) _ _

theorem stop_under (h : Under R m m') : Under R m.stop m'.stop := by
  have skipped := skip_under h 1
  have armed := sim.speedArmed skipped.bus
  have switched := sim.switchSpeed skipped.bus
  simp only [stop, armed, sim.doubleSpeed switched, skipped.cpu]
  split
  · exact ⟨rfl, sim.report switched _⟩
  · exact ⟨rfl, sim.report skipped.bus _⟩

theorem halt_under (h : Under R m m') : Under R m.halt m'.halt := by
  simp only [halt, sim.requests h.bus, sim.enables h.bus, h.cpu]
  split
  · exact onCpu_under h _
  · exact onCpu_under h _

theorem jumpNear_under (h : Under R m m') : Under R m.jumpNear m'.jumpNear := by
  simp only [jumpNear, immediate_under sim h]
  exact onCpu_under (skip_under h 1) _

/-! ## Instructions by kind -/

theorem executeLow_under (h : Under R m m') (i : Instruction) :
    Under R (m.executeLow i) (m'.executeLow i) := by
  cases i with
  | loadWord p =>
    simp only [executeLow, immediateWord_under sim h]
    exact onCpu_under (skip_under h 2) _
  | storeA p =>
    simp only [executeLow, h.cpu]
    exact onCpu_under (write_under sim h _ _) _
  | loadA p =>
    simp only [executeLow, h.cpu, read_under sim h]
    exact onCpu_under h _
  | increaseWord p => exact moveWord_under sim h p 1
  | decreaseWord p => exact moveWord_under sim h p 0xFFFF
  | increase o =>
    simp only [executeLow, operand_under sim h, h.cpu]
    exact setFlagged_under sim h o _
  | decrease o =>
    simp only [executeLow, operand_under sim h, h.cpu]
    exact setFlagged_under sim h o _
  | loadByte o =>
    simp only [executeLow, immediate_under sim h]
    exact setOperand_under sim (skip_under h 1) o _
  | storeSp => exact storeSp_under sim h
  | addWord p =>
    simp only [executeLow, addWord]
    exact onCpu_under h _
  | stop => exact stop_under sim h
  | jumpNear => exact jumpNear_under sim h
  | jumpNearIf condition =>
    simp only [executeLow, h.cpu]
    split
    · exact jumpNear_under sim h
    · exact skip_under h 1
  | _ => exact h

theorem executeByte_under (h : Under R m m') (i : Instruction) :
    Under R (m.executeByte i) (m'.executeByte i) := by
  cases i with
  | copy target source =>
    simp only [executeByte, operand_under sim h]
    exact setOperand_under sim h target _
  | compute operation o =>
    simp only [executeByte, operand_under sim h]
    exact onCpu_under h _
  | computeByte operation =>
    simp only [executeByte, immediate_under sim h]
    exact onCpu_under (skip_under h 1) _
  | _ => exact h

theorem executeJump_under (h : Under R m m') (i : Instruction) :
    Under R (m.executeJump i) (m'.executeJump i) := by
  cases i with
  | jump =>
    simp only [executeJump, immediateWord_under sim h]
    exact goto_under h _
  | jumpIf condition =>
    simp only [executeJump, immediateWord_under sim h, h.cpu]
    split
    · exact goto_under h _
    · exact skip_under h 2
  | jumpHl =>
    simp only [executeJump, h.cpu]
    exact goto_under h _
  | call =>
    simp only [executeJump, immediateWord_under sim h]
    exact callTo_under sim (skip_under h 2) _
  | callIf condition =>
    simp only [executeJump, immediateWord_under sim h, h.cpu]
    split
    · exact callTo_under sim (skip_under h 2) _
    · exact skip_under h 2
  | restart target => exact callTo_under sim h _
  | ret => exact returnBack_under sim h
  | retIf condition =>
    simp only [executeJump, h.cpu]
    split
    · exact returnBack_under sim h
    · exact h
  | retEnable =>
    simp only [executeJump]
    exact onCpu_under (returnBack_under sim h) _
  | _ => exact h

theorem executeHigh_under (h : Under R m m') (i : Instruction) :
    Under R (m.executeHigh i) (m'.executeHigh i) := by
  cases i with
  | push p =>
    simp only [executeHigh, h.cpu]
    exact push_under sim h _
  | pop p =>
    simp only [executeHigh, top_under sim h]
    exact onCpu_under (onCpu_under h _) _
  | storeHigh =>
    simp only [executeHigh, immediate_under sim h, h.cpu]
    exact write_under sim (skip_under h 1) _ _
  | loadHigh =>
    simp only [executeHigh, immediate_under sim h, read_under sim h]
    exact setOperand_under sim (skip_under h 1) .a _
  | storeHighC =>
    simp only [executeHigh, h.cpu]
    exact write_under sim h _ _
  | loadHighC =>
    simp only [executeHigh, h.cpu, read_under sim h]
    exact setOperand_under sim h .a _
  | storeAbsolute =>
    simp only [executeHigh, immediateWord_under sim h, h.cpu]
    exact write_under sim (skip_under h 2) _ _
  | loadAbsolute =>
    simp only [executeHigh, immediateWord_under sim h, read_under sim h]
    exact setOperand_under sim (skip_under h 2) .a _
  | moveSp =>
    simp only [executeHigh, immediate_under sim h]
    exact onCpu_under (skip_under h 1) _
  | loadHlSp =>
    simp only [executeHigh, immediate_under sim h]
    exact onCpu_under (skip_under h 1) _
  | loadSpHl =>
    simp only [executeHigh]
    exact onCpu_under h _
  | _ => exact h

theorem executeExtended_under (h : Under R m m') (i : Extended) :
    Under R (m.executeExtended i) (m'.executeExtended i) := by
  cases i with
  | rotate kind o =>
    simp only [executeExtended, operand_under sim h, h.cpu]
    exact setFlagged_under sim h o _
  | test bit o =>
    simp only [executeExtended, operand_under sim h]
    exact onCpu_under h _
  | reset bit o =>
    simp only [executeExtended, operand_under sim h]
    exact setOperand_under sim h o _
  | set bit o =>
    simp only [executeExtended, operand_under sim h]
    exact setOperand_under sim h o _

/-- One instruction. -/
theorem execute_under (h : Under R m m') (i : Instruction) :
    Under R (m.execute i) (m'.execute i) := by
  cases i with
  | nop => exact h
  | halt => exact halt_under sim h
  | extended =>
    simp only [execute, immediate_under sim h]
    exact executeExtended_under sim (skip_under h 1) _
  | unknown opcode =>
    simp only [execute, ignore, h.cpu]
    exact ⟨rfl, sim.report h.bus _⟩
  | _ =>
    simp only [execute]
    first
    | exact onCpu_under h _
    | exact executeByte_under sim h _
    | exact executeJump_under sim h _
    | exact executeHigh_under sim h _
    | exact executeLow_under sim h _

theorem costOf_under (h : Under R m m') (i : Instruction) : m.costOf i = m'.costOf i := by
  cases i with
  | extended => rw [costOf, costOf, immediate_under sim h]
  | _ => simp only [costOf, h.cpu]

/-! ## Steps and turns -/

theorem runInstruction_under (h : Under R m m') :
    Under R m.runInstruction.1 m'.runInstruction.1 ∧ m.runInstruction.2 = m'.runInstruction.2 := by
  have settled := settleEnable_under h
  have passed := passOpcode_under settled
  simp only [runInstruction, read_under sim settled, settled.cpu]
  exact ⟨execute_under sim passed _, costOf_under sim passed _⟩

theorem pending_under (h : Under R m m') : m.pending = m'.pending := by
  rw [pending, pending, sim.requests h.bus, sim.enables h.bus]

theorem dispatch_under (h : Under R m m') : Under R m.dispatch m'.dispatch := by
  simp only [dispatch, onCpu, pending_under sim h, sim.requests h.bus, h.cpu]
  refine callTo_under sim ?_ _
  exact ⟨rfl, sim.acknowledge h.bus _⟩

/-- One step takes the same time on both sides. -/
theorem step_under (h : Under R m m') :
    Under R m.step.1 m'.step.1 ∧ m.step.2 = m'.step.2 := by
  have awake : Under R m.wake m'.wake := onCpu_under h _
  obtain ⟨ran, cost⟩ := runInstruction_under sim awake
  simp only [step, pending_under sim h, h.cpu]
  split
  · split
    · exact ⟨h, rfl⟩
    split
    · exact ⟨dispatch_under sim awake, rfl⟩
    · exact ⟨ran, congrArg (idleCost + ·) cost⟩
  split
  · exact ⟨dispatch_under sim h, rfl⟩
  · exact runInstruction_under sim h

theorem charge_under (h : Under R m m') (cost : Nat) :
    Under R (m.charge cost).1 (m'.charge cost).1 ∧ (m.charge cost).2 = (m'.charge cost).2 := by
  have taken := sim.takeStall h.bus
  simp only [charge, Bus.baseCycles, sim.stall h.bus, sim.doubleSpeed taken]
  exact ⟨⟨h.cpu, sim.step taken _⟩, trivial⟩

/-- One turn takes the same time on both sides. -/
theorem turn_under (h : Under R m m') :
    Under R m.turn.1 m'.turn.1 ∧ m.turn.2 = m'.turn.2 := by
  obtain ⟨stepped, cost⟩ := step_under sim h
  simp only [turn, cost]
  exact charge_under sim stepped _

theorem runFrom_under (h : Under R m m') (goal elapsed : Nat) :
    Under R (m.runFrom goal elapsed).1 (m'.runFrom goal elapsed).1 ∧
      (m.runFrom goal elapsed).2 = (m'.runFrom goal elapsed).2 := by
  fun_induction runFrom m goal elapsed generalizing m' with
  | case1 m elapsed more next =>
    rename_i ih
    obtain ⟨turned, cycles⟩ := turn_under sim h
    have goesOn : m'.runFrom goal elapsed = m'.turn.1.runFrom goal (elapsed + m'.turn.2) := by
      rw [runFrom, if_pos more]
    rw [goesOn, ← cycles]
    exact ih turned
  | case2 m elapsed done =>
    rw [runFrom, if_neg done]
    exact ⟨h, rfl⟩

/-- A run takes the same time on both sides. -/
theorem run_under (h : Under R m m') (cycles : Nat) :
    Under R (m.run cycles).1 (m'.run cycles).1 ∧ (m.run cycles).2 = (m'.run cycles).2 :=
  runFrom_under sim h cycles 0

end Accesses

/-! ## Properties -/

section Properties

variable {P : Bus → Prop} (inv : Bus.Invariant P)
include inv

theorem step_keeps (h : P m.bus) : P m.step.1.bus :=
  (step_under inv.simulation ⟨rfl, rfl, h⟩).1.bus.2

theorem turn_keeps (h : P m.bus) : P m.turn.1.bus :=
  (turn_under inv.simulation ⟨rfl, rfl, h⟩).1.bus.2

theorem run_keeps (h : P m.bus) (cycles : Nat) : P (m.run cycles).1.bus :=
  (run_under inv.simulation ⟨rfl, rfl, h⟩ cycles).1.bus.2

end Properties

end Core

end DotMatrix
