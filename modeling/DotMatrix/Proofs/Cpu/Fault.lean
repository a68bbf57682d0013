import DotMatrix.Proofs.Cpu.Service

/-!
# The fault of HALT

HALT with the master enable off, where an interrupt is pending, does not halt: it leaves a fault
behind, for which the next opcode is read and not passed. The fault, the halted state and the two
interrupt switches exclude each other as `Cpu.Proper` says, on any bus: a step settles a waiting EI
before it carries out an instruction, and HALT looks at the master enable only then. The processor
also keeps the lower half of its flags clear.

Only HALT touches the halted state and the fault (`Spares`), so that the invariant has three cases:
a step that serves an interrupt, one that carries out HALT, and all others.

Results:
* `execute_spares`: an instruction other than HALT leaves the halted state and the fault alone, and
  the lower half of the flags clear.
* `step_proper`: a step on any bus keeps the invariant.
* `step_of_fault`: a step with the fault carries out the byte at the program counter.
* **`Reachable.haltFault`**: the invariant, and what the fault does, in every state that can
  be reached.
-/

namespace DotMatrix

namespace Flag

/-- No bit is set but the four flags. -/
def Only (f : UInt8) : Prop :=
  f &&& 0x0F = 0

variable {f g : UInt8}

theorem Only.or (hf : Only f) (hg : Only g) : Only (f ||| g) := by
  rw [Only, or_and, hf, hg, UInt8.or_self]

theorem Only.xor (hf : Only f) (hg : Only g) : Only (f ^^^ g) := by
  have distrib : (f ^^^ g) &&& 0x0F = (f &&& 0x0F) ^^^ (g &&& 0x0F) := by
    apply UInt8.toNat_inj.mp
    simp only [UInt8.toNat_and, UInt8.toNat_xor, Nat.and_xor_distrib_right]
  rw [Only, distrib, hf, hg, UInt8.xor_self]

theorem Only.and (hf : Only f) (mask : UInt8) : Only (f &&& mask) := by
  rw [Only, UInt8.and_assoc, UInt8.and_comm mask, ← UInt8.and_assoc, hf, UInt8.zero_and]

theorem Only.masked (hg : Only g) (f : UInt8) : Only (f &&& g) := by
  rw [UInt8.and_comm]
  exact hg.and f

theorem Only.when (hf : Only f) (cond : Bool) : Only (Flag.when cond f) := by
  cases cond with
  | false => exact UInt8.zero_and
  | true => exact hf

theorem only_zero : Only zero := rfl

theorem only_subtract : Only subtract := rfl

theorem only_half : Only half := rfl

theorem only_carry : Only carry := rfl

theorem only_masked (f : UInt8) : Only (f &&& 0xF0) :=
  Only.masked (show Only 0xF0 from rfl) f

end Flag

open DotMatrix.Flag (Only only_zero only_subtract only_half only_carry)

/-! ## The flags of results -/

namespace Arithmetic

theorem zeroFlag_only (val : UInt8) : Only (zeroFlag val) :=
  only_zero.when _

theorem add_only (a b : UInt8) (carry : Bool) : Only (add a b carry).flags :=
  ((zeroFlag_only _).or (only_half.when _)).or (only_carry.when _)

theorem sub_only (a b : UInt8) (borrow : Bool) : Only (sub a b borrow).flags :=
  (((zeroFlag_only _).or only_subtract).or (only_half.when _)).or (only_carry.when _)

theorem adjust_only (a f : UInt8) : Only (adjust a f).flags := by
  unfold adjust
  split
  · exact (only_subtract.or (zeroFlag_only _)).or (only_carry.when _)
  · exact (zeroFlag_only _).or (only_carry.when _)

theorem increase_only (val f : UInt8) : Only (increase val f).flags :=
  ((only_carry.masked f).or (zeroFlag_only _)).or (only_half.when _)

theorem decrease_only (val f : UInt8) : Only (decrease val f).flags :=
  (((only_carry.masked f).or only_subtract).or (zeroFlag_only _)).or (only_half.when _)

theorem shifted_only (value : UInt8) (out : Bool) : Only (shifted value out).flags :=
  (zeroFlag_only _).or (only_carry.when _)

theorem addWordFlags_only (a b : UInt16) (f : UInt8) : Only (addWordFlags a b f) :=
  ((only_zero.masked f).or (only_half.when _)).or (only_carry.when _)

theorem displaceFlags_only (w : UInt16) (d : UInt8) : Only (displaceFlags w d) :=
  (only_half.when _).or (only_carry.when _)

end Arithmetic

namespace Cpu

theorem operate_only (r : Cpu) (operation : Operation) (val : UInt8) :
    Only (r.operate operation val).flags := by
  cases operation with
  | add => exact Arithmetic.add_only _ _ _
  | adc => exact Arithmetic.add_only _ _ _
  | sub => exact Arithmetic.sub_only _ _ _
  | sbc => exact Arithmetic.sub_only _ _ _
  | and => exact (Arithmetic.zeroFlag_only _).or only_half
  | xor => exact Arithmetic.zeroFlag_only _
  | or => exact Arithmetic.zeroFlag_only _
  | cp => exact Arithmetic.sub_only _ _ _

theorem rotate_only (r : Cpu) (kind : Rotation) (val : UInt8) : Only (r.rotate kind val).flags := by
  cases kind <;> exact Arithmetic.shifted_only _ _

theorem setAf_only (r : Cpu) (w : UInt16) : Only (r.setAf w).f :=
  Flag.only_masked _

end Cpu

/-! ## Instructions -/

namespace Core

/-- What happens between two machines leaves the halted state and the fault of HALT alone, and sets
none of the lower four bits of the flags. -/
structure Spares (m m' : Core) : Prop where
  flags : Only m.cpu.f → Only m'.cpu.f
  halted : m'.cpu.halted = m.cpu.halted
  haltBug : m'.cpu.haltBug = m.cpu.haltBug

variable {m m' m'' : Core}

theorem Spares.refl (m : Core) : m.Spares m :=
  ⟨id, rfl, rfl⟩

theorem Spares.trans (h : m.Spares m') (h' : m'.Spares m'') : m.Spares m'' where
  flags := h'.flags ∘ h.flags
  halted := h'.halted.trans h.halted
  haltBug := h'.haltBug.trans h.haltBug

variable (m)

theorem skip_spares (n : UInt16) : m.Spares (m.skip n) :=
  ⟨id, rfl, rfl⟩

theorem goto_spares (addr : UInt16) : m.Spares (m.goto addr) :=
  ⟨id, rfl, rfl⟩

theorem callTo_spares (addr : UInt16) : m.Spares (m.callTo addr) :=
  ⟨id, rfl, rfl⟩

theorem returnBack_spares : m.Spares m.returnBack :=
  ⟨id, rfl, rfl⟩

theorem jumpNear_spares : m.Spares m.jumpNear :=
  ⟨id, rfl, rfl⟩

theorem setOperand_spares (o : Operand) (val : UInt8) : m.Spares (m.setOperand o val) := by
  cases o <;> exact ⟨id, rfl, rfl⟩

theorem setFlagged_spares (o : Operand) {result : Flagged} (h : Only result.flags) :
    m.Spares (m.setFlagged o result) :=
  have flags : m.Spares (m.setFlags result.flags) := ⟨fun _ => h, rfl, rfl⟩
  flags.trans (setOperand_spares _ o result.value)

theorem setPair_spares (p : Pair) (w : Cpu → UInt16) :
    m.Spares (m.onCpu fun r => r.setPair p (w r)) := by
  cases p <;> exact ⟨id, rfl, rfl⟩

theorem spoilAt_spares (p : Pair) : m.Spares (m.spoilAt p) := by
  unfold spoilAt
  split <;> exact ⟨id, rfl, rfl⟩

theorem moveWord_spares (p : Pair) (d : UInt16) : m.Spares (m.moveWord p d) :=
  (spoilAt_spares m p).trans (setPair_spares _ p fun r => r.pair p + d)

theorem stop_spares : m.Spares m.stop := by
  simp only [stop]
  split <;> exact ⟨id, rfl, rfl⟩

theorem executeOnA_spares (i : Instruction) : m.Spares (m.onCpu fun r => r.executeOnA i) := by
  simp only [onCpu, Cpu.executeOnA]
  split
  case h_1 kind => exact ⟨fun _ => (Cpu.rotate_only _ kind _).and 0x7F, rfl, rfl⟩
  case h_2 => exact ⟨fun _ => Arithmetic.adjust_only _ _, rfl, rfl⟩
  case h_3 =>
    refine ⟨fun _ => ?_, rfl, rfl⟩
    exact (((only_zero.or only_carry).masked _).or only_subtract).or only_half
  case h_4 => exact ⟨fun _ => (only_zero.masked _).or only_carry, rfl, rfl⟩
  case h_5 =>
    refine ⟨fun _ => ?_, rfl, rfl⟩
    exact (only_zero.masked _).or ((only_carry.masked _).xor only_carry)
  case h_6 => exact .refl m

theorem executeLow_spares (i : Instruction) : m.Spares (m.executeLow i) := by
  unfold executeLow
  split
  case h_1 p => exact (skip_spares m 2).trans (setPair_spares _ p _)
  case h_2 p => cases p <;> exact ⟨id, rfl, rfl⟩
  case h_3 p => cases p <;> exact ⟨id, rfl, rfl⟩
  case h_4 p => exact moveWord_spares m p 1
  case h_5 p => exact moveWord_spares m p 0xFFFF
  case h_6 o => exact setFlagged_spares m o (Arithmetic.increase_only _ _)
  case h_7 o => exact setFlagged_spares m o (Arithmetic.decrease_only _ _)
  case h_8 o => exact (skip_spares m 1).trans (setOperand_spares _ o _)
  case h_9 => exact ⟨id, rfl, rfl⟩
  case h_10 p => exact ⟨fun _ => Arithmetic.addWordFlags_only _ _ _, rfl, rfl⟩
  case h_11 => exact stop_spares m
  case h_12 => exact jumpNear_spares m
  case h_13 condition =>
    split
    · exact jumpNear_spares m
    · exact skip_spares m 1
  case h_14 => exact .refl m

theorem executeByte_spares (i : Instruction) : m.Spares (m.executeByte i) := by
  unfold executeByte
  split
  case h_1 target source => exact setOperand_spares m target _
  case h_2 operation o => exact ⟨fun _ => Cpu.operate_only _ operation _, rfl, rfl⟩
  case h_3 operation => exact ⟨fun _ => Cpu.operate_only _ operation _, rfl, rfl⟩
  case h_4 => exact .refl m

theorem executeJump_spares (i : Instruction) : m.Spares (m.executeJump i) := by
  unfold executeJump
  split
  case h_1 => exact goto_spares m _
  case h_2 condition =>
    split
    · exact goto_spares m _
    · exact skip_spares m 2
  case h_3 => exact goto_spares m _
  case h_4 => exact (skip_spares m 2).trans (callTo_spares _ _)
  case h_5 condition =>
    split
    · exact (skip_spares m 2).trans (callTo_spares _ _)
    · exact skip_spares m 2
  case h_6 target => exact callTo_spares m _
  case h_7 => exact returnBack_spares m
  case h_8 condition =>
    split
    · exact returnBack_spares m
    · exact .refl m
  case h_9 => exact (returnBack_spares m).trans ⟨id, rfl, rfl⟩
  case h_10 => exact .refl m

theorem executeHigh_spares (i : Instruction) : m.Spares (m.executeHigh i) := by
  unfold executeHigh
  split
  case h_2 p =>
    cases p with
    | af => exact ⟨fun _ => Cpu.setAf_only _ _, rfl, rfl⟩
    | bc | de | hl => exact ⟨id, rfl, rfl⟩
  case h_9 => exact ⟨fun _ => Arithmetic.displaceFlags_only _ _, rfl, rfl⟩
  case h_10 => exact ⟨fun _ => Arithmetic.displaceFlags_only _ _, rfl, rfl⟩
  all_goals exact ⟨id, rfl, rfl⟩

theorem executeExtended_spares (i : Extended) : m.Spares (m.executeExtended i) := by
  cases i with
  | rotate kind o => exact setFlagged_spares m o (Cpu.rotate_only _ kind _)
  | test bit o =>
    refine ⟨fun _ => ?_, rfl, rfl⟩
    exact ((only_carry.masked _).or only_half).or (Arithmetic.zeroFlag_only _)
  | reset bit o => exact setOperand_spares m o _
  | set bit o => exact setOperand_spares m o _

/-- An instruction other than HALT leaves the halted state and the fault alone. -/
theorem execute_spares {i : Instruction} (h : i ≠ .halt) : m.Spares (m.execute i) := by
  unfold execute
  split
  all_goals first
    | exact absurd rfl h
    | exact executeOnA_spares m _
    | exact executeByte_spares m _
    | exact executeJump_spares m _
    | exact executeHigh_spares m _
    | exact executeLow_spares m _
    | exact (skip_spares m 1).trans (executeExtended_spares _ _)
    | exact ⟨id, rfl, rfl⟩

theorem settleEnable_spares : m.Spares m.settleEnable := by
  unfold settleEnable
  split <;> exact ⟨id, rfl, rfl⟩

theorem dispatch_spares : m.wake.Spares m.wake.dispatch := by
  rw [dispatch_serve]
  exact ⟨id, rfl, rfl⟩

/-- Fetching an opcode disarms the fault, and nothing else. -/
theorem passOpcode_disarms : m.passOpcode.cpu.haltBug = false ∧ m.passOpcode.cpu.f = m.cpu.f ∧
    m.passOpcode.cpu.halted = m.cpu.halted := by
  unfold passOpcode
  split
  next => exact ⟨rfl, rfl, rfl⟩
  next unarmed => exact ⟨Bool.eq_false_iff.mpr unarmed, rfl, rfl⟩

end Core

namespace Instruction

theorem decode_halt_ofNat : ∀ n : Fin 256,
    decode (UInt8.ofNat n.val) = halt ↔ UInt8.ofNat n.val = 0x76 := by
  decide +kernel

/-- HALT has one opcode. -/
theorem decode_halt {opcode : UInt8} : decode opcode = halt ↔ opcode = 0x76 := by
  have checked := decode_halt_ofNat ⟨opcode.toNat, opcode.toNat_lt⟩
  rwa [UInt8.ofNat_toNat] at checked

end Instruction

/-! ## The invariant -/

/-- No bit of F is set but the four flags, a halted processor has no EI waiting, and one with the
fault of HALT is not halted, has interrupts off and no EI waiting. -/
structure Cpu.Proper (r : Cpu) : Prop where
  flags : Only r.f
  settled : r.halted = true → r.imePending = false
  stuck : r.haltBug = true → r.halted = false ∧ r.ime = false ∧ r.imePending = false

namespace Core

variable {m : Core}

theorem dispatch_proper (h : m.cpu.Proper) (served : m.dispatches = true) :
    m.wake.dispatch.cpu.Proper where
  flags := (dispatch_spares m).flags h.flags
  settled halted := by
    rw [(dispatch_spares m).halted] at halted
    cases halted
  stuck fault := by
    rw [(dispatch_spares m).haltBug] at fault
    have off := (h.stuck fault).2.1
    rw [dispatches, off, Bool.false_and] at served
    cases served

/-- HALT, behind a fetch: it halts or it leaves the fault, and no EI waits. -/
theorem halt_proper (flags : Only m.cpu.f) (running : m.cpu.halted = false)
    (unarmed : m.cpu.haltBug = false) (settled : m.cpu.imePending = false) :
    m.halt.cpu.Proper := by
  simp only [halt]
  split
  next off =>
    simp only [Bool.and_eq_true, Bool.not_eq_true'] at off
    exact ⟨flags, fun _ => settled, fun _ => ⟨running, off.1, settled⟩⟩
  next =>
    refine ⟨flags, fun _ => settled, fun fault => ?_⟩
    have armed : m.cpu.haltBug = true := fault
    rw [unarmed] at armed
    cases armed

theorem halt_haltBug (m : Core) :
    m.halt.cpu.haltBug = (!m.cpu.ime && m.pending != 0 || m.cpu.haltBug) := by
  simp only [halt]
  split
  next off =>
    rw [show (!m.cpu.ime && m.pending != 0) = true from off]
    rfl
  next on =>
    rw [show (!m.cpu.ime && m.pending != 0) = false from Bool.eq_false_iff.mpr on]
    rfl

theorem runInstruction_proper (flags : Only m.cpu.f) (running : m.cpu.halted = false) :
    m.runInstruction.1.cpu.Proper := by
  have settled := settleEnable_spares m
  obtain ⟨unarmed, sameFlags, sameHalted⟩ := passOpcode_disarms m.settleEnable
  have fetchedFlags : Only m.settleEnable.passOpcode.cpu.f := sameFlags ▸ settled.flags flags
  have fetchedRuns : m.settleEnable.passOpcode.cpu.halted = false := by
    rw [sameHalted, settled.halted, running]
  rw [runInstruction]
  by_cases halts : Instruction.decode (m.settleEnable.read m.settleEnable.cpu.pc) = .halt
  · have switches := (passOpcode_switches m.settleEnable).trans (settleEnable_switches m)
    rw [halts]
    exact halt_proper fetchedFlags fetchedRuns unarmed (congrArg Prod.snd switches)
  · have spared := execute_spares m.settleEnable.passOpcode halts
    refine ⟨spared.flags fetchedFlags, fun halted => ?_, fun fault => ?_⟩
    · rw [spared.halted, fetchedRuns] at halted
      cases halted
    · rw [spared.haltBug, unarmed] at fault
      cases fault

/-- A step on any bus keeps the invariant. -/
theorem step_proper (h : m.cpu.Proper) : m.step.1.cpu.Proper := by
  cases served : m.dispatches with
  | true =>
    rw [step_of_dispatches served]
    exact dispatch_proper h served
  | false =>
    cases next : m.opcode? with
    | none =>
      rw [step_of_idle served next]
      exact h
    | some opcode =>
      rw [(step_of_opcode next).1]
      exact runInstruction_proper (m := m.wake) h.flags rfl

/-! ## A step with the fault -/

/-- The machine without the fault of HALT. -/
def disarmed (m : Core) : Core :=
  m.onCpu fun r => { r with haltBug := false }

theorem step_of_fault (h : m.cpu.Proper) (fault : m.cpu.haltBug = true) :
    m.step = (m.disarmed.execute (Instruction.decode (m.read m.cpu.pc)),
      m.disarmed.costOf (Instruction.decode (m.read m.cpu.pc))) := by
  obtain ⟨running, off, settled⟩ := h.stuck fault
  have still : m.settleEnable = m := by rw [settleEnable, settled, if_neg Bool.false_ne_true]
  have passed : m.passOpcode = m.disarmed := by rw [passOpcode, if_pos fault, disarmed]
  have runs : m.step = m.runInstruction := by
    simp only [step, running, off, Bool.false_and, Bool.false_eq_true, if_false]
  rw [runs, runInstruction, still, passed]

/-- After a step with the fault there is a fault again only if the byte was HALT, and then if an
interrupt is pending. -/
theorem step_of_fault_haltBug (h : m.cpu.Proper) (fault : m.cpu.haltBug = true) :
    m.step.1.cpu.haltBug = true ↔ m.read m.cpu.pc = 0x76 ∧ m.pending ≠ 0 := by
  rw [step_of_fault h fault]
  by_cases halts : m.read m.cpu.pc = 0x76
  · have off : m.disarmed.cpu.ime = false := (h.stuck fault).2.1
    have rearmed : m.disarmed.halt.cpu.haltBug = (m.pending != 0) := by
      rw [halt_haltBug, off]
      exact Bool.or_false _
    rw [Instruction.decode_halt.mpr halts]
    change m.disarmed.halt.cpu.haltBug = true ↔ _
    rw [rearmed, bne_iff_ne, and_iff_right halts]
  · have spared := execute_spares m.disarmed (mt Instruction.decode_halt.mp halts)
    rw [spared.haltBug]
    exact iff_of_false Bool.false_ne_true fun both => halts both.1

end Core

/-! ## States that can be reached -/

namespace Cpu

/-- The states of the processor that steps on any bus and settings of registers can reach. -/
inductive Reachable : Cpu → Prop where
  | boot (model : Model) : Reachable (boot model)
  | step {r : Cpu} : Reachable r → ∀ b : Bus, Reachable (Core.mk r b).step.1.cpu
  | set {r : Cpu} : Reachable r → ∀ (name : Register) (w : UInt16), Reachable (r.set name w)

theorem boot_proper (model : Model) : (boot model).Proper := by
  cases model <;> exact ⟨rfl, fun _ => rfl, fun fault => by cases fault⟩

theorem Proper.set {r : Cpu} (h : r.Proper) (name : Register) (w : UInt16) :
    (r.set name w).Proper := by
  cases name with
  | f => exact ⟨Flag.only_masked _, h.settled, h.stuck⟩
  | af => exact ⟨setAf_only r w, h.settled, h.stuck⟩
  | _ => exact ⟨h.flags, h.settled, h.stuck⟩

theorem Reachable.proper {r : Cpu} (h : r.Reachable) : r.Proper := by
  induction h with
  | boot model => exact boot_proper model
  | step _ b ih => exact Core.step_proper (m := ⟨_, b⟩) ih
  | set _ name w ih => exact ih.set name w

/-- **The fault of HALT**: in every state that can be reached the lower half of F is clear, a halted
processor has no EI waiting, and one with the fault is not halted, has interrupts off and no EI
waiting. So, whatever is on the bus, its next step carries out the byte at the program counter
without passing it; and after that there is a fault again exactly if the byte is HALT and an
interrupt is pending. -/
theorem Reachable.haltFault {r : Cpu} (h : r.Reachable) :
    r.f &&& 0x0F = 0 ∧ (r.halted = true → r.imePending = false) ∧
      (r.haltBug = true → (r.halted = false ∧ r.ime = false ∧ r.imePending = false) ∧
        ∀ b : Bus,
          (Core.mk r b).step =
            ((Core.mk { r with haltBug := false } b).execute (Instruction.decode (b.read r.pc)),
              (Core.mk { r with haltBug := false } b).costOf (Instruction.decode (b.read r.pc))) ∧
          ((Core.mk r b).step.1.cpu.haltBug = true ↔
            b.read r.pc = 0x76 ∧ Interrupt.pending b.requests b.enables ≠ 0)) := by
  have proper := h.proper
  refine ⟨proper.flags, proper.settled, fun fault => ⟨proper.stuck fault, fun b => ?_⟩⟩
  exact ⟨Core.step_of_fault (m := ⟨r, b⟩) proper fault,
    Core.step_of_fault_haltBug (m := ⟨r, b⟩) proper fault⟩

/-- HALT while the VBlank interrupt waits and interrupts are off: the INC A behind it is carried out
without being passed. -/
theorem haltFault_increase : ∃ r : Cpu, r.Reachable ∧ r.haltBug = true ∧ r.halted = false ∧
    ∀ b : Bus, b.read r.pc = 0x3C →
      (Core.mk r b).step.1.cpu.pc = r.pc ∧ (Core.mk r b).step.1.cpu.a = r.a + 1 ∧
        (Core.mk r b).step.1.cpu.haltBug = false := by
  obtain ⟨r, reached, fault⟩ : ∃ r : Cpu, r.Reachable ∧ r.haltBug = true :=
    ⟨(Schedule.hosted 0x76 0x3C).step.1.cpu, .step (.set (.boot .dmg) .pc 0xFF80) _,
      by decide +kernel⟩
  obtain ⟨stuck, steps⟩ := reached.haltFault.2.2 fault
  refine ⟨r, reached, fault, stuck.1, fun b increase => ?_⟩
  obtain ⟨step, rearmed⟩ := steps b
  have decoded : Instruction.decode 0x3C = .increase .a := by decide
  rw [increase, decoded] at step
  refine ⟨by rw [step]; rfl, by rw [step]; rfl, ?_⟩
  rw [← Bool.not_eq_true, rearmed, increase]
  exact fun both => absurd both.1 (by decide)

end Cpu

end DotMatrix
