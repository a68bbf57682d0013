import DotMatrix.Proofs.Bus.Carry
import DotMatrix.Proofs.Bus.Slots
import DotMatrix.Proofs.Word

/-!
# The status of a block transfer

FF55 shows the blocks that a transfer with the lines has left, and bit 7 when none is running. The
status byte, the bytes that are left and the question whether a transfer is running are kept apart,
and are brought into step by every operation on a transfer: to arm one, to carry it on, to stop it,
and to copy all at once. The boot program leaves them out of step: no transfer is running, but the
status byte is 0 until FF55 is written for the first time.

Results:
* `Accounted`: how the status and the bytes that are left may stand.
* `Tracked`: the buses that come about, with the knowledge whether FF55 has been written;
  `Reachable.tracked`: every bus that can be reached is one of them.
* `Tracked.inOrder`: on each of them the account is in order.
* **`status_iff`**: bit 7 tells whether a transfer is running exactly when FF55 has been written;
  while one is running the status is the number of blocks left less one, and a block never takes
  more than there is.
* `status_fresh`: a colour console at power-up.
-/

namespace DotMatrix

/-! ## The account -/

/-- How a transfer may stand: as the boot program leaves it, stopped or done with bit 7 set, or
running with `n + 1` blocks left. -/
inductive Accounted (asked : Bool) (t : BlockTransfer) : Prop where
  | fresh (never : asked = false) (none : t.length = 0) (status : t.status = 0)
  | idle (once : asked = true) (none : t.length = 0) (status : hasBit t.status 0x80 = true)
  | running (once : asked = true) (n : Nat) (bound : n < 128)
      (length : t.length.toNat = 16 * (n + 1)) (status : t.status.toNat = n)

namespace Accounted

variable {asked : Bool} {t t' : BlockTransfer}

/-- The account is one of the bytes that are left and the status. -/
theorem congr (h : Accounted asked t) (length : t'.length = t.length)
    (status : t'.status = t.status) : Accounted asked t' := by
  cases h with
  | fresh never l s => exact .fresh never (length.trans l) (status.trans s)
  | idle once l s => exact .idle once (length.trans l) (status ▸ s)
  | running once n bound l s => exact .running once n bound (length ▸ l) (status ▸ s)

theorem armed (t : BlockTransfer) (val : UInt8) :
    Accounted true (Bus.armed t ((val &&& 0x7F).toNat + 1)) := by
  have small : val &&& 0x7F < 128 := and_lt (by decide) val
  have bound : (val &&& 0x7F).toNat < 128 := UInt8.lt_iff_toNat_lt.mp small
  refine .running rfl (val &&& 0x7F).toNat bound ?_ ?_
  · exact UInt16.toNat_ofNat_of_lt' (Nat.lt_of_lt_of_le (show _ < 16 * 129 by omega) (by decide))
  · exact UInt8.toNat_ofNat_of_lt' (Nat.lt_trans bound (by decide))

theorem cancelled (t : BlockTransfer) : Accounted true (Bus.cancelled t) := by
  refine .idle rfl rfl ?_
  rw [Bus.cancelled, hasBit_or]
  exact Bool.or_true _

/-- A block is taken from those that are left, and there is one to take. -/
theorem blockDone (h : Accounted asked t) (active : t.active = true) :
    Accounted asked (Bus.blockDone t) := by
  have some : t.length ≠ 0 := by simpa [BlockTransfer.active] using active
  cases h with
  | fresh never none => exact absurd none some
  | idle once none => exact absurd none some
  | running once n bound length status =>
    have block : 0x10 ≤ t.length := by
      rw [UInt16.le_iff_toNat_le, length]
      exact Nat.le_mul_of_pos_right 16 (Nat.succ_pos n)
    have left : (t.length - 0x10).toNat = 16 * n := by
      rw [UInt16.toNat_sub_of_le _ _ block, length]
      exact Nat.add_sub_cancel (16 * n) 16
    cases n with
    | zero =>
      have gone : t.length - 0x10 = 0 := UInt16.toNat_inj.mp left
      refine .idle once gone ?_
      rw [Bus.blockDone, gone]
      exact (by decide : hasBit 0xFF 0x80 = true)
    | succ n =>
      have more : (t.length - 0x10 == 0) = false := by
        rw [beq_eq_false_iff_ne]
        intro gone
        rw [gone] at left
        cases left
      have last : 1 ≤ t.status := by
        rw [UInt8.le_iff_toNat_le, status]
        exact Nat.succ_pos n
      refine .running once n (by omega) left ?_
      rw [Bus.blockDone, more]
      change (t.status - 1).toNat = n
      rw [UInt8.toNat_sub_of_le _ _ last, status]
      rfl

/-- While no transfer is running the status has bit 7, once it has been asked for. -/
theorem bit_iff (h : Accounted asked t) :
    (hasBit t.status 0x80 = false ↔ t.active = true) ↔ asked = true := by
  cases h with
  | fresh never none status => simp [never, status, BlockTransfer.active, none, hasBit]
  | idle once none status => simp [once, status, BlockTransfer.active, none]
  | running once n bound length status =>
    have some : t.length ≠ 0 := by
      intro none
      rw [none] at length
      cases length
    simp [once, BlockTransfer.active, some, hasBit_top (status ▸ bound)]

/-- The bytes that are left are those of at most 128 whole blocks. -/
theorem length_le (h : Accounted asked t) :
    16 ∣ t.length.toNat ∧ t.length.toNat ≤ 0x800 := by
  cases h with
  | fresh _ none | idle _ none => simp [none]
  | running _ n bound length =>
    rw [length]
    exact ⟨Nat.dvd_mul_right 16 _, by omega⟩

/-- While a transfer is running, the status is the number of blocks that are left, less one; and
there is a block to take. -/
theorem status_toNat (h : Accounted asked t) (active : t.active = true) :
    16 * ((t.status &&& 0x7F).toNat + 1) = t.length.toNat ∧ 16 ≤ t.length.toNat := by
  cases h with
  | fresh _ none | idle _ none => simp [BlockTransfer.active, none] at active
  | running _ n bound length status =>
    rw [and_low (status ▸ bound), status, length]
    exact ⟨rfl, Nat.le_mul_of_pos_right 16 (Nat.succ_pos n)⟩

end Accounted

/-! ## Writes -/

namespace Video

/-- The model, and where the transfer stands. -/
def standing (v : Video) : Model × UInt16 × UInt8 :=
  (v.model, v.transfer.length, v.transfer.status)

theorem writeColourReg_standing (v : Video) (addr : UInt16) (val : UInt8) :
    (v.writeColourReg addr val).standing = v.standing := by
  unfold writeColourReg
  split <;> rfl

theorem Run.writeLcdc_standing (r : Run) (val : UInt8) :
    (r.writeLcdc val).video.standing = r.video.standing := by
  simp only [writeLcdc]
  split
  · rfl
  · split <;> rfl

/-- The registers that need no access to the bus have no part in where the transfer stands. -/
theorem Run.write_standing (r : Run) (addr : UInt16) (val : UInt8) :
    (r.write addr val).video.standing = r.video.standing := by
  unfold write
  split
  · exact writeLcdc_standing r val
  all_goals try rfl
  simp only [update]
  split
  · exact writeColourReg_standing r.video addr val
  · rfl

end Video

namespace Bus

/-- The models of the bus and of its picture unit, and where the transfer stands. -/
def standing (b : Bus) : Model × Model × UInt16 × UInt8 :=
  (b.model, b.video.standing)

section Writes

variable (b : Bus) (addr : UInt16) (val : UInt8)

theorem afterTimer_standing (r : Timer.Run) : (b.afterTimer r).standing = b.standing := by
  rw [afterTimer_eq]
  rfl

theorem remap_standing : b.remap.standing = b.standing := by
  unfold remap
  rfl

theorem writeVideo_standing : (b.writeVideo addr val).standing = b.standing :=
  congrArg (Prod.mk b.model) (Video.Run.write_standing b.run addr val)

theorem fillObjects_standing : (b.fillObjects val).standing = b.standing := by
  simp only [fillObjects, standing, Video.standing]

/-- A write to any address but FF55 has no part in where the transfer stands. -/
theorem write_standing (other : addr ≠ 0xFF55) : (b.write addr val).standing = b.standing := by
  have wrote := write_wrote b addr val
  generalize b.write addr val = b' at wrote
  cases wrote with
  | nothing | vram | cartRam | wram | oam | hram | enables | joypad | link | requests | sound
  | speed | undocumented => rfl
  | control | workBank => exact remap_standing _
  | timer => exact afterTimer_standing b _
  | picture => exact writeVideo_standing b addr val
  | screenOff here notice => exact writeVideo_standing (b.report notice) addr val
  | objects => exact fillObjects_standing b val
  | videoBank => exact (remap_standing _).trans (writeVideo_standing b addr val)
  | transfer here => exact absurd here other

theorem write_transfer (colour : b.isColour = true) : b.write 0xFF55 val = b.writeTransfer val := by
  simp [write, writeIo, writeColourIo, colour]

theorem write_transfer_plain (plain : b.isColour = false) : b.write 0xFF55 val = b := by
  simp [write, writeIo, plain]

theorem read_transfer (colour : b.isColour = true) (same : b.video.model = b.model) :
    b.read 0xFF55 = b.video.transfer.status := by
  have unit : b.video.isColour = true := (congrArg Model.isColour same).trans colour
  simp [read, readIo, readColourIo, Video.read, Video.readColourReg, colour, unit]

end Writes

/-! ## Transfers -/

variable {b : Bus} {asked : Bool}

theorem transfer_of_standing {b b' : Bus} (same : b'.standing = b.standing) :
    b'.video.transfer.length = b.video.transfer.length ∧
      b'.video.transfer.status = b.video.transfer.status :=
  ⟨congrArg (fun s => s.2.2.1) same, congrArg (fun s => s.2.2.2) same⟩

theorem models_of_standing {b b' : Bus} (same : b'.standing = b.standing) :
    b'.model = b.model ∧ b'.video.model = b.video.model :=
  ⟨congrArg (fun s => s.1) same, congrArg (fun s => s.2.1) same⟩

/-- Whatever is written to FF55, the account is in order afterwards. -/
theorem writeTransfer_accounted (b : Bus) (val : UInt8) :
    Accounted true (b.writeTransfer val).video.transfer := by
  unfold writeTransfer
  simp only
  split
  · exact .armed _ val
  split
  · exact .cancelled _
  · rename_i _ idle
    have none : b.video.transfer.length = 0 := by simpa [BlockTransfer.active] using idle
    obtain ⟨vram, -, filled⟩ := transferNow_fills b ((val &&& 0x7F).toNat + 1)
    rw [filled]
    exact .idle rfl none (by decide : hasBit 0xFF 0x80 = true)

/-- Carrying on keeps the account in order. -/
theorem carry_accounted (h : Accounted asked b.video.transfer) :
    Accounted asked b.carry.video.transfer := by
  unfold carry
  split
  · rename_i active
    obtain ⟨vram, -, filled⟩ := transferBlock_fills b
    rw [filled]
    exact h.blockDone active
  · exact h

theorem iterate_carry_accounted (h : Accounted asked b.video.transfer) (k : Nat) :
    Accounted asked (carry^[k] b).video.transfer := by
  induction k generalizing b with
  | zero => exact h
  | succ k ih => exact ih (carry_accounted h)

/-! ## Every bus that can be reached -/

/-- The buses that come about from power-up by writes, by time, and by whatever leaves the models,
the course of the frame and the standing of the transfer alone, with the knowledge whether FF55 has
been written since the boot program has run. -/
inductive Tracked : Bool → Bus → Prop where
  | new (model : Model) : Tracked false (Bus.new model)
  | write {asked : Bool} {b : Bus} (addr : UInt16) (val : UInt8) :
      Tracked asked b → Tracked (asked || addr == 0xFF55) (b.write addr val)
  | step {asked : Bool} {b : Bus} (cycles : Nat) : Tracked asked b → Tracked asked (b.step cycles)
  | aside {asked : Bool} {b b' : Bus} : Tracked asked b → b'.standing = b.standing →
      b'.video.course = b.video.course → Tracked asked b'

/-- A reset is a power-up to it. -/
theorem tracked_reset (b : Bus) (model : Model) : (b.reset model).Tracked false :=
  .aside (.new model) rfl rfl

theorem Tracked.switchSpeed (h : b.Tracked asked) : b.switchSpeed.Tracked asked :=
  .aside h (afterTimer_standing _ _) (congrArg Video.course (afterTimer_video _ _))

/-- A snapshot brings what the bus that it was taken of was like. -/
theorem Tracked.restore {saved : Bus} {m m' : Core} {cpu : Cpu} (h : saved.Tracked asked)
    (fits : saved.Fits)
    (restored : Snapshot.restore m (Snapshot.encode ⟨cpu, saved⟩) = .ok m') :
    m'.bus.Tracked asked := by
  obtain ⟨bus, joined, rfl⟩ := Snapshot.restore_ok fits restored
  obtain ⟨-, -, cart, -, rfl⟩ := Snapshot.joinBus_ok joined
  refine .aside h ?_ rfl
  unfold remap
  rfl

/-- Of every bus that can be reached it is known. -/
theorem Reachable.tracked (h : b.Reachable) : ∃ asked, b.Tracked asked := by
  induction h with
  | new model => exact ⟨_, .new model⟩
  | write addr val _ ih => exact ih.imp' _ fun asked tracked => tracked.write addr val
  | insert _ accepted ih => exact ih.imp fun asked tracked => tracked.aside (remap_standing _) rfl
  | reset model _ ih => exact ⟨_, tracked_reset _ model⟩
  | step cycles _ ih => exact ih.imp fun asked tracked => tracked.step cycles
  | switchSpeed _ ih => exact ih.imp fun asked tracked => tracked.switchSpeed
  | restore _ _ fits restored ih ihSaved =>
    exact ihSaved.imp fun asked tracked => tracked.restore fits restored

/-- What is tracked is attained. -/
theorem Tracked.attained (h : b.Tracked asked) : b.Attained fun _ => True := by
  induction h with
  | new model => exact .new model
  | write addr val _ ih => exact ih.write addr val
  | step cycles _ ih => exact ih.step trivial
  | aside _ _ course ih => exact ih.aside course

/-- The picture unit is of the model of the bus, and on a colour model the account is in order. -/
structure InOrder (asked : Bool) (b : Bus) : Prop where
  model : b.video.model = b.model
  account : b.isColour = true → Accounted asked b.video.transfer

theorem InOrder.congr {b' : Bus} (h : b.InOrder asked) (same : b'.standing = b.standing) :
    b'.InOrder asked := by
  obtain ⟨model, unit⟩ := models_of_standing same
  obtain ⟨length, status⟩ := transfer_of_standing same
  refine ⟨(unit.trans h.model).trans model.symm, fun colour => ?_⟩
  exact (h.account ((congrArg Model.isColour model).symm.trans colour)).congr length status

/-- Where a transfer stands is a part of the haul. -/
theorem standing_of_haul {b' : Bus} (same : b'.haul = b.haul) : b'.standing = b.standing :=
  congrArg (fun h => (h.model, h.video.2.2.1, h.video.2.2.2.1.length, h.video.2.2.2.1.status)) same

theorem iterate_carry_models (b : Bus) (k : Nat) :
    (carry^[k] b).model = b.model ∧ (carry^[k] b).video.model = b.video.model := by
  obtain ⟨stall, vram, transfer, carried⟩ := iterate_carry_fills b k
  rw [carried]
  exact ⟨rfl, rfl⟩

theorem InOrder.iterate_carry (h : b.InOrder asked) (k : Nat) : (carry^[k] b).InOrder asked := by
  obtain ⟨model, unit⟩ := iterate_carry_models b k
  refine ⟨(unit.trans h.model).trans model.symm, fun colour => ?_⟩
  exact iterate_carry_accounted (h.account ((congrArg Model.isColour model).symm.trans colour)) k

theorem during_model (b : Bus) (cycles k : Nat) : (b.during cycles k).model = b.model := by
  obtain ⟨j, carried⟩ := during_haul b cycles k
  exact (congrArg Haul.model carried).trans (iterate_carry_models b j).1

/-- Time keeps the account in order, also in the course of a step. -/
theorem InOrder.during (h : b.InOrder asked) (cycles k : Nat) :
    (b.during cycles k).InOrder asked := by
  obtain ⟨j, carried⟩ := during_haul b cycles k
  exact (h.iterate_carry j).congr (standing_of_haul carried)

theorem InOrder.step (h : b.InOrder asked) (cycles : Nat) : (b.step cycles).InOrder asked :=
  (h.iterate_carry _).congr (standing_of_haul (step_haul b cycles))

theorem new_inOrder (model : Model) : (Bus.new model).InOrder false :=
  ⟨rfl, fun _ => .fresh rfl rfl rfl⟩

theorem writeTransfer_models (b : Bus) (val : UInt8) :
    (b.writeTransfer val).model = b.model ∧ (b.writeTransfer val).video.model = b.video.model := by
  obtain ⟨stall, notices, vram, transfer, -, filled⟩ := writeTransfer_fills b val
  rw [filled]
  exact ⟨rfl, rfl⟩

theorem InOrder.write (h : b.InOrder asked) (addr : UInt16) (val : UInt8) :
    (b.write addr val).InOrder (asked || addr == 0xFF55) := by
  by_cases transfer : addr = 0xFF55
  · subst transfer
    rw [beq_self_eq_true, Bool.or_true]
    cases colour : b.isColour with
    | true =>
      rw [write_transfer b val colour]
      obtain ⟨model, unit⟩ := writeTransfer_models b val
      exact ⟨(unit.trans h.model).trans model.symm, fun _ => writeTransfer_accounted b val⟩
    | false =>
      rw [write_transfer_plain b val colour]
      exact ⟨h.model, fun yes => absurd (colour.symm.trans yes) (by decide)⟩
  · rw [beq_false_of_ne transfer, Bool.or_false]
    exact h.congr (write_standing b addr val transfer)

/-- **On every bus that can be reached** the account is in order. -/
theorem Tracked.inOrder (h : b.Tracked asked) : b.InOrder asked := by
  induction h with
  | new model => exact new_inOrder model
  | write addr val _ ih => exact ih.write addr val
  | step cycles _ ih => exact ih.step cycles
  | aside _ standing _ ih => exact ih.congr standing

/-! ## What the processor reads -/

/-- **FF55** on a colour console: bit 7 is clear exactly while a transfer runs with the lines, if and
only if FF55 has been written since the boot program has run; while a transfer is running the status
is the number of blocks that are left, less one; and what is left is whole blocks, at most 128, also
in the course of a step, where there is one at least to take. -/
theorem status_iff (h : b.Tracked asked) (colour : b.isColour = true) :
    ((hasBit (b.read 0xFF55) 0x80 = false ↔ b.video.transfer.active = true) ↔ asked = true) ∧
      (b.video.transfer.active = true →
        16 * ((b.read 0xFF55 &&& 0x7F).toNat + 1) = b.video.transfer.length.toNat) ∧
      (16 ∣ b.video.transfer.length.toNat ∧ b.video.transfer.length.toNat ≤ 0x800) ∧
      ∀ cycles k, let t := (b.during cycles k).video.transfer
        (16 ∣ t.length.toNat ∧ t.length.toNat ≤ 0x800) ∧
          (t.active = true → 16 ≤ t.length.toNat) := by
  have inOrder := h.inOrder
  have account := inOrder.account colour
  rw [read_transfer b colour inOrder.model]
  refine ⟨account.bit_iff, fun active => (account.status_toNat active).1, account.length_le,
    fun cycles k => ?_⟩
  have colour' : (b.during cycles k).isColour = true :=
    (congrArg Model.isColour (during_model b cycles k)).trans colour
  have account' := (inOrder.during cycles k).account colour'
  exact ⟨account'.length_le, fun active => (account'.status_toNat active).2⟩

/-- A transfer of three blocks is armed at power-up, and a line passes. -/
theorem status_iff_armed :
    let b := ((new .gbc).write 0xFF55 0x82).step 456
    b.Tracked true ∧ b.isColour = true ∧
      (hasBit (b.read 0xFF55) 0x80 = false ↔ b.video.transfer.active = true) ∧
      16 ∣ b.video.transfer.length.toNat := by
  have tracked : (((new .gbc).write 0xFF55 0x82).step 456).Tracked true :=
    ((Tracked.new .gbc).write 0xFF55 0x82).step 456
  have colour : (((new .gbc).write 0xFF55 0x82).step 456).isColour = true := by
    obtain ⟨n, stepped, -⟩ := step_during ((new .gbc).write 0xFF55 0x82) 456
    have model : (((new .gbc).write 0xFF55 0x82).step 456).model = .gbc := by
      rw [stepped, during_model, write_transfer _ _ rfl]
      exact (writeTransfer_models _ _).1
    exact congrArg Model.isColour model
  obtain ⟨bit, -, ⟨whole, -⟩, -⟩ := status_iff tracked colour
  exact ⟨tracked, colour, bit.mpr rfl, whole⟩

/-- A colour console at power-up: no transfer is running, but bit 7 is clear. -/
theorem status_fresh :
    (new .gbc).Tracked false ∧ (new .gbc).isColour = true ∧
      hasBit ((new .gbc).read 0xFF55) 0x80 = false ∧ (new .gbc).video.transfer.active = false := by
  refine ⟨.new .gbc, rfl, ?_, rfl⟩
  rw [read_transfer (new .gbc) rfl rfl]
  rfl

end Bus

end DotMatrix
