import DotMatrix.Proofs.Bus.Frame
import DotMatrix.Proofs.Bus.Status
import DotMatrix.Proofs.Cpu.Accesses

/-!
# What the processor has to pay for transfers

The blocks of a transfer have a cost that the processor pays with the step after them: `stall` is
what it still has to pay. Blocks that are copied at once add at most 128 of them, and they are only
copied where no transfer runs with the lines. A transfer that does run adds one block for each line
that ends, and the lines are far enough apart for at most one of them to end in what a step takes
otherwise. So there is never more than one block to pay for when the next step begins (`Light`).

Results:
* `write_toll`: only a write to FF55 has a part in the cost of transfers.
* `Charged`, **`Accessed.charged`**: what a step of the processor adds to the stall.
* `Charged.stall_le`, `Charged.base_le`: what there is to pay after it, and the time that it takes.
* `settleLines_le_one`: at most one line ends in a short time.
* **`step_light`**: after the time of a step, there is a block to pay for at most.
-/

namespace DotMatrix

namespace Bus

/-! ## The cost of a step -/

/-- What is to be paid, the speed, and whether a transfer runs with the lines. -/
def toll (b : Bus) : Nat × Bool × Bool :=
  (b.stall, b.doubleSpeed, b.video.transfer.active)

theorem active_of_standing {b b' : Bus} (same : b'.standing = b.standing) :
    b'.video.transfer.active = b.video.transfer.active := by
  rw [BlockTransfer.active, BlockTransfer.active, (transfer_of_standing same).1]

theorem afterTimer_toll (b : Bus) (r : Timer.Run) :
    ((b.afterTimer r).stall, (b.afterTimer r).doubleSpeed) = (b.stall, b.doubleSpeed) := by
  rw [afterTimer_eq]
  rfl

theorem remap_toll (b : Bus) : (b.remap.stall, b.remap.doubleSpeed) = (b.stall, b.doubleSpeed) := by
  unfold remap
  rfl

theorem Wrote.toll {b b' : Bus} {addr : UInt16} {val : UInt8} (h : b.Wrote addr val b')
    (other : addr ≠ 0xFF55) : (b'.stall, b'.doubleSpeed) = (b.stall, b.doubleSpeed) := by
  cases h with
  | speed key1 kept => exact congrArg (Prod.mk b.stall) kept
  | control | workBank | videoBank => exact remap_toll _
  | timer => exact afterTimer_toll b _
  | objects => simp only [fillObjects, doubleSpeed]
  | transfer here => exact absurd here other
  | _ => rfl

/-- Only a write to FF55 has a part in the cost of transfers. -/
theorem write_toll (b : Bus) {addr : UInt16} (other : addr ≠ 0xFF55) (val : UInt8) :
    (b.write addr val).toll = b.toll := by
  obtain ⟨stall, speed⟩ := Prod.mk.inj ((write_wrote b addr val).toll other)
  rw [toll, stall, speed, active_of_standing (write_standing b addr val other), toll]

/-- What a step of the processor adds to the stall: nothing, or the cost of at most 128 blocks; then
no transfer runs with the lines. -/
inductive Charged (b b' : Bus) : Prop where
  | free (stall : b'.stall = b.stall)
  | blocks (n : Nat) (most : n ≤ 128) (idle : b'.video.transfer.active = false)
      (speed : b'.doubleSpeed = b.doubleSpeed) (stall : b'.stall = b.stall + b.blockCycles n)

theorem blockCycles_congr {b b' : Bus} (speed : b'.doubleSpeed = b.doubleSpeed) :
    b'.blockCycles = b.blockCycles := by
  funext n
  rw [blockCycles, blockCycles, speed]

theorem Charged.congr {b b' c c' : Bus} (h : b.Charged b') (before : c.toll = b.toll)
    (after : c'.toll = b'.toll) : c.Charged c' := by
  simp only [toll, Prod.mk.injEq] at before after
  obtain ⟨stall, speed, -⟩ := before
  obtain ⟨stall', speed', active'⟩ := after
  cases h with
  | free same => exact .free (stall'.trans (same.trans stall.symm))
  | blocks n most idle kept added =>
    refine .blocks n most (active'.trans idle) (speed'.trans (kept.trans speed.symm)) ?_
    rw [stall', added, stall, blockCycles_congr speed]

theorem writeTransfer_charged (b : Bus) (val : UInt8) : b.Charged (b.writeTransfer val) := by
  unfold writeTransfer
  simp only
  split
  · exact .free rfl
  split
  · exact .free rfl
  next idle =>
    have few : val &&& 0x7F < 128 := and_lt (by decide) val
    obtain ⟨vram, -, filled⟩ := transferNow_fills b ((val &&& 0x7F).toNat + 1)
    rw [filled]
    exact .blocks _ (UInt8.lt_iff_toNat_lt.mp few) (Bool.eq_false_iff.mpr idle) rfl rfl

theorem write_charged (b : Bus) (addr : UInt16) (val : UInt8) : b.Charged (b.write addr val) := by
  by_cases transfer : addr = 0xFF55
  · subst transfer
    cases colour : b.isColour with
    | true =>
      rw [write_transfer b val colour]
      exact writeTransfer_charged b val
    | false =>
      rw [write_transfer_plain b val colour]
      exact .free rfl
  · exact .free (congrArg Prod.fst (write_toll b transfer val))

/-- **What a step adds** to the stall. Of the two bytes of a word, one at most goes to FF55. -/
theorem Accessed.charged {b b' : Bus} (h : b.Accessed b') : b.Charged b' := by
  cases h with
  | nothing | spoilOam | report => exact .free rfl
  | write addr val => exact write_charged b addr val
  | @writeTwo requests first second other val val' =>
    let taken : Bus := { b with requests := requests }
    by_cases transfer : first = 0xFF55
    · have second_ne : second ≠ 0xFF55 := fun same => other (transfer.trans same.symm)
      exact (write_charged taken first val).congr rfl (write_toll _ second_ne val')
    · exact (write_charged (taken.write first val) second val').congr
        (write_toll taken transfer val).symm rfl
  | switchSpeed => exact .free (congrArg Prod.fst (afterTimer_toll _ _))

/-! ## What there is to pay -/

/-- There is nothing to pay, or one block. -/
def Light (b : Bus) : Prop :=
  b.stall = 0 ∨ b.stall = b.blockCycles 1

variable {b b' : Bus}

/-- A block costs 32 cycles, or twice as many in double speed. -/
theorem blockCycles_cases (b : Bus) :
    b.doubleSpeed = false ∧ (∀ n, b.blockCycles n = n * 32) ∨
      b.doubleSpeed = true ∧ ∀ n, b.blockCycles n = n * 64 := by
  cases speed : b.doubleSpeed with
  | false => exact .inl ⟨rfl, fun n => by rw [blockCycles, speed, if_neg Bool.false_ne_true]⟩
  | true => exact .inr ⟨rfl, fun n => by rw [blockCycles, speed, if_pos rfl]⟩

theorem Light.stall_le (h : b.Light) :
    32 ∣ b.stall ∧ b.stall ≤ b.blockCycles 1 ∧ b.blockCycles 1 ≤ 64 := by
  have block : 32 ∣ b.blockCycles 1 ∧ b.blockCycles 1 ≤ 64 := by
    obtain ⟨-, cycles⟩ | ⟨-, cycles⟩ := b.blockCycles_cases <;> rw [cycles] <;> decide
  rcases h with none | one
  · rw [none]
    exact ⟨Nat.dvd_zero 32, Nat.zero_le _, block.2⟩
  · rw [one]
    exact ⟨block.1, Nat.le_refl _, block.2⟩

/-- After a step there is a block to pay for, or a block and those that have been copied at once;
then no transfer runs with the lines. -/
theorem Charged.stall_le (h : b.Charged b') (light : b.Light) :
    32 ∣ b'.stall ∧
      (b'.stall ≤ 64 ∨ b'.video.transfer.active = false ∧ b'.stall ≤ b'.blockCycles 129) := by
  obtain ⟨whole, one, few⟩ := light.stall_le
  cases h with
  | free stall =>
    rw [stall]
    exact ⟨whole, .inl (Nat.le_trans one few)⟩
  | blocks n most idle speed stall =>
    rw [stall, blockCycles_congr speed]
    obtain ⟨-, cycles⟩ | ⟨-, cycles⟩ := b.blockCycles_cases
    all_goals
      rw [cycles] at one
      rw [cycles, cycles]
      exact ⟨by omega, .inr ⟨idle, by omega⟩⟩

/-- A step with what there is to pay takes at most 4156 cycles of the base clock, and at most 92 if a
transfer runs with the lines. -/
theorem Charged.base_le (h : b.Charged b') (light : b.Light) {cost : Nat} (most : cost ≤ 28) :
    b'.baseCycles (cost + b'.stall) ≤ 4156 ∧
      (b'.video.transfer.active = true → b'.baseCycles (cost + b'.stall) ≤ 92) := by
  obtain ⟨-, few | ⟨idle, many⟩⟩ := h.stall_le light
  · have short : b'.baseCycles (cost + b'.stall) ≤ 92 :=
      Nat.le_trans (baseCycles_le b' _) (Nat.add_le_add most few)
    exact ⟨Nat.le_trans short (by decide), fun _ => short⟩
  · refine ⟨?_, fun active => absurd (idle.symm.trans active) (by decide)⟩
    obtain ⟨slow, cycles⟩ | ⟨fast, cycles⟩ := b'.blockCycles_cases
    · rw [cycles] at many
      rw [baseCycles, slow, if_neg Bool.false_ne_true]
      omega
    · rw [cycles] at many
      rw [baseCycles, fast, if_pos rfl]
      omega

/-- Of whole machine cycles none is lost in double speed. -/
theorem baseCycles_whole (b : Bus) {cycles : Nat} (whole : 4 ∣ cycles) (some : 4 ≤ cycles) :
    2 ∣ b.baseCycles cycles ∧ 2 ≤ b.baseCycles cycles ∧
      (if b.doubleSpeed then 2 * b.baseCycles cycles else b.baseCycles cycles) = cycles := by
  unfold baseCycles
  split <;> omega

/-! ## The lines in a short time -/

theorem advanceVideo_ended (due : b.video.pending = true) (ends : b.endsLine = true) :
    b.advanceVideo.video.nextCycles = b.video.nextCycles + 204 := by
  obtain ⟨c, turn, after⟩ := Video.Run.advance_turns (r := b.run) due
  have course : b.advanceVideo.video.course = c.updateStat :=
    (congrArg Prod.fst (advanceVideo_pace b)).trans after
  rw [eq_of_beq ends] at turn
  have next : b.advanceVideo.video.nextCycles = c.nextCycles := congrArg (·.nextCycles) course
  rw [next]
  cases turn
  rfl

/-- At most one line ends while the steps of the frame are made that have become due, if they are
not far behind: the rest after a line is 204 cycles long. -/
theorem settleLines_le_one (near : b.video.pending = true → -204 < b.video.nextCycles) :
    b.settleLines ≤ 1 := by
  fun_induction settleLines b with
  | case1 b due ih =>
    have late := near due
    cases ends : b.endsLine with
    | false =>
      have later := advanceVideo_nextCycles b due
      exact ih fun _ => by omega
    | true =>
      have later := advanceVideo_ended due ends
      have idle : ¬ b.advanceVideo.video.pending = true := fun pending => by
        have behind := Video.nextCycles_of_pending pending
        omega
      rw [settleLines, dif_neg idle]
      decide
  | case2 b idle => exact Nat.zero_le 1

theorem ticked_lines_le_one (idle : b.video.course.pending = false) {cycles : Nat}
    (short : b.baseCycles cycles < 204) : (b.ticked cycles).settleLines ≤ 1 := by
  refine settleLines_le_one fun due => ?_
  have ticked := ticked_course b cycles
  have due : (b.ticked cycles).video.course.pending = true := due
  have on : b.video.course.lcdOn = true := by
    obtain ⟨rest, after⟩ := b.video.course.tick_eq (b.baseCycles cycles)
    rw [ticked, after] at due
    exact (Bool.and_eq_true_iff.mp due).1
  have left : 0 < b.video.course.nextCycles := by simpa [Video.Course.pending, on] using idle
  have count : Video.Short (b.baseCycles cycles) := Nat.lt_trans short (by decide)
  rw [Video.Course.tick, if_pos on, count.signedCount] at ticked
  have next : (b.ticked cycles).video.nextCycles = b.video.course.nextCycles - b.baseCycles cycles :=
    congrArg (·.nextCycles) ticked
  omega

/-! ## Time -/

theorem Light.congr (h : b.Light) (same : b'.haul = b.haul) : b'.Light := by
  have stall : b'.stall = b.stall := congrArg Haul.stall same
  have speed : b'.doubleSpeed = b.doubleSpeed :=
    congrArg (fun haul : Haul => hasBit haul.key1 0x80) same
  rw [Light, stall, blockCycles_congr speed]
  exact h

theorem carry_light (none : b.stall = 0) : b.carry.Light := by
  unfold carry
  split
  · obtain ⟨vram, -, filled⟩ := transferBlock_fills b
    rw [filled]
    exact .inr ((congrArg (· + b.blockCycles 1) none).trans (Nat.zero_add _))
  · exact .inl none

/-- **After the time of a step** that has been paid for, there is a block to pay for at most. -/
theorem step_light (idle : b.video.course.pending = false) (none : b.stall = 0) {cycles : Nat}
    (short : b.video.transfer.active = true → b.baseCycles cycles ≤ 92) :
    (b.step cycles).Light := by
  suffices carried : (carry^[(b.ticked cycles).settleLines] b).Light from
    carried.congr (step_haul b cycles)
  cases running : b.video.transfer.active with
  | false =>
    have still : b.carry = b := by rw [carry, running, if_neg Bool.false_ne_true]
    rw [Function.iterate_fixed still]
    exact .inl none
  | true =>
    have lines := ticked_lines_le_one idle (Nat.lt_of_le_of_lt (short running) (by decide))
    interval_cases (b.ticked cycles).settleLines
    · exact .inl none
    · exact carry_light none

end Bus

end DotMatrix
