import DotMatrix.Proofs.Bus.Cells

/-!
# The bytes of a copy

The loop of a block transfer reads a byte and puts it into video memory, and so on with the next. A
source in video memory may run into the target, and then the loop reads what it has put there. So a
byte is told by what its source address stands for (`origin`): if no earlier byte has gone there, it
is the byte that was there before the loop, and if one has, it is that one. No more than a bank is
copied, so that no place is filled twice, and what a turn has put into its place is there in the
end.

Results:
* `copyToVram_add`: a copy goes on where another has stopped.
* `copyToVram_elsewhere`: it leaves alone what is no target of it.
* `copyToVram_filled`: a place that it fills holds what the loop read at its turn.
* **`copyToVram_copied`**: what is in video memory after a copy, told by what was there before.
-/

namespace DotMatrix

namespace Bus

/-- The place in video memory that byte `j` of a copy goes to. -/
def landing (b : Bus) (target : UInt16) (j : Nat) : Nat :=
  Video.vramIndex (b.video.vbk &&& 1).toNat (target + j.toUInt16)

/-- The byte that the source address of byte `j` of a copy stands for. -/
def origin (b : Bus) (source : UInt16) (j : Nat) : Cell :=
  (b.slotAt (source + j.toUInt16)).cell (source + j.toUInt16)

/-- Since `b`, the first `n` bytes of a copy have come into video memory, and nothing else has. -/
structure Copied (b : Bus) (source target : UInt16) (n : Nat) (later : Bus) : Prop where
  /-- What is no target is what it was. -/
  elsewhere : ∀ place, (∀ j < n, place ≠ b.landing target j) →
    later.video.vramAt place = b.video.vramAt place
  /-- A byte whose source is no target of an earlier one is what the source was. All sources outside
  video memory are such. -/
  fresh : ∀ j < n, (∀ i < j, b.origin source j ≠ .vram (b.landing target i)) →
    later.video.vramAt (b.landing target j) = b.look (b.origin source j)
  /-- A byte whose source is the target of an earlier one is the same as that one. -/
  again : ∀ j < n, ∀ i < j, b.origin source j = .vram (b.landing target i) →
    later.video.vramAt (b.landing target j) = later.video.vramAt (b.landing target i)

variable {b : Bus} {source target : UInt16}

/-! ## The places -/

theorem landing_lt (full : b.video.vram.size = Video.vramSize) (target : UInt16) (j : Nat) :
    b.landing target j < b.video.vram.size := by
  have bank := b.videoBank_le
  rw [full, landing, Video.vramIndex, and_bank, Video.bankSize, Video.vramSize]
  omega

/-- Within a bank, no two bytes go to one place. -/
theorem landing_injective {i j : Nat} (first : i < 0x2000) (second : j < 0x2000)
    (same : b.landing target i = b.landing target j) : i = j := by
  have low := Nat.add_left_cancel same
  have number (k : Nat) : (target + k.toUInt16).toNat = (target.toNat + k % 2 ^ 16) % 2 ^ 16 :=
    UInt16.toNat_add target k.toUInt16
  rw [and_bank, and_bank, number, number] at low
  omega

/-! ## One byte -/

/-- Targets that differ by whole banks are the same place. -/
theorem copyByte_target (source : UInt16) {target target' : UInt16}
    (same : target.toNat % 0x2000 = target'.toNat % 0x2000) :
    b.copyByte source target = b.copyByte source target' := by
  have place : target &&& 0x1FFF = target' &&& 0x1FFF :=
    UInt16.toNat_inj.mp ((and_bank target).trans (same.trans (and_bank target').symm))
  simp only [copyByte, Video.vramIndex, place]

/-! ## The loop -/

theorem copyToVram_target (n : Nat) (source : UInt16) {target target' : UInt16}
    (same : target.toNat % 0x2000 = target'.toNat % 0x2000) :
    b.copyToVram source target n = b.copyToVram source target' n := by
  induction n generalizing b source target target' with
  | zero => rfl
  | succ n ih =>
    rw [copyToVram, copyToVram, copyByte_target source same]
    refine ih _ ?_
    rw [UInt16.toNat_add, UInt16.toNat_add]
    omega

/-- **A copy goes on** where another has stopped. -/
theorem copyToVram_add (b : Bus) (source target : UInt16) (m n : Nat) :
    b.copyToVram source target (m + n) =
      (b.copyToVram source target m).copyToVram (source + m.toUInt16) (target + m.toUInt16) n := by
  induction m generalizing b source target with
  | zero =>
    have none (addr : UInt16) : addr + (0 : Nat).toUInt16 = addr := UInt16.add_zero addr
    rw [none, none, Nat.zero_add]
    rfl
  | succ m ih =>
    rw [Nat.succ_add, copyToVram, copyToVram, ih, add_one_add_toUInt16, add_one_add_toUInt16]

/-- The bytes that there are, and where they lie, stay. -/
theorem copyToVram_frame (b : Bus) (source target : UInt16) (n : Nat) :
    (b.copyToVram source target n).video.vram.size = b.video.vram.size ∧
      (b.copyToVram source target n).landing = b.landing ∧
      (b.copyToVram source target n).origin = b.origin := by
  obtain ⟨vram, size, filled⟩ := copyToVram_fills n b source target
  rw [filled]
  exact ⟨size, rfl, rfl⟩

/-- One more turn of the loop, place by place. -/
theorem copyToVram_succ_vramAt (b : Bus) (source target : UInt16) (n place : Nat) :
    (b.copyToVram source target (n + 1)).video.vramAt place =
      if b.landing target n = place ∧ place < b.video.vram.size
      then (b.copyToVram source target n).readSlot (source + n.toUInt16)
      else (b.copyToVram source target n).video.vramAt place := by
  obtain ⟨size, landing, -⟩ := copyToVram_frame b source target n
  rw [← size, ← landing, copyToVram_add b source target n 1]
  exact getD_set _ _ _ _ _

/-- A copy leaves alone what is no target of it. -/
theorem copyToVram_elsewhere {n place : Nat} (away : ∀ j < n, place ≠ b.landing target j) :
    (b.copyToVram source target n).video.vramAt place = b.video.vramAt place := by
  induction n with
  | zero => rfl
  | succ n ih =>
    have last := away n (Nat.lt_succ_self n)
    rw [copyToVram_succ_vramAt, if_neg fun here => last here.1.symm]
    exact ih fun j inside => away j (Nat.lt_succ_of_lt inside)

/-- **A place that is filled** holds what the loop read at its turn. -/
theorem copyToVram_filled (full : b.video.vram.size = Video.vramSize) {j n : Nat} (inside : j < n)
    (fits : n ≤ 0x2000) : (b.copyToVram source target n).video.vramAt (b.landing target j) =
      (b.copyToVram source target j).readSlot (source + j.toUInt16) := by
  induction n with
  | zero => exact absurd inside (Nat.not_lt_zero j)
  | succ n ih =>
    rw [copyToVram_succ_vramAt]
    rcases Nat.lt_succ_iff_lt_or_eq.mp inside with before | rfl
    · have apart : b.landing target n ≠ b.landing target j := fun same =>
        Nat.ne_of_gt before (landing_injective fits (inside.trans_le fits) same)
      rw [if_neg fun here => apart here.1]
      exact ih before (Nat.le_of_succ_le fits)
    · rw [if_pos ⟨rfl, landing_lt full target j⟩]

/-! ## All bytes -/

/-- What a byte holds, unless the copy has gone there. -/
theorem copyToVram_look {n : Nat} {cell : Cell}
    (apart : ∀ i < n, cell ≠ .vram (b.landing target i)) :
    (b.copyToVram source target n).look cell = b.look cell := by
  obtain ⟨vram, -, filled⟩ := copyToVram_fills n b source target
  cases cell with
  | vram place =>
    exact copyToVram_elsewhere fun i inside same => apart i inside (congrArg Cell.vram same)
  | _ =>
    rw [filled]
    rfl

/-- What the loop reads at the turn of byte `j`. -/
theorem copyToVram_turn (b : Bus) (source target : UInt16) (j : Nat) :
    (b.copyToVram source target j).readSlot (source + j.toUInt16) =
      (b.copyToVram source target j).look (b.origin source j) := by
  obtain ⟨-, -, origin⟩ := copyToVram_frame b source target j
  rw [← origin]
  exact slot_look _ _

/-- **What is in video memory after a copy** of no more than a bank. -/
theorem copyToVram_copied (full : b.video.vram.size = Video.vramSize) {n : Nat}
    (fits : n ≤ 0x2000) : b.Copied source target n (b.copyToVram source target n) where
  elsewhere _ away := copyToVram_elsewhere away
  fresh j inside apart := by
    rw [copyToVram_filled full inside fits, copyToVram_turn, copyToVram_look apart]
  again j inside i before same := by
    have fits' : j ≤ 0x2000 := (Nat.le_of_lt inside).trans fits
    calc (b.copyToVram source target n).video.vramAt (b.landing target j)
      _ = (b.copyToVram source target j).look (b.origin source j) := by
        rw [copyToVram_filled full inside fits, copyToVram_turn]
      _ = (b.copyToVram source target j).video.vramAt (b.landing target i) := by
        rw [same]
        rfl
      _ = (b.copyToVram source target n).video.vramAt (b.landing target i) := by
        rw [copyToVram_filled full before fits', copyToVram_filled full (before.trans inside) fits]

theorem Copied.congr {later later' : Bus} {n : Nat} (h : b.Copied source target n later)
    (same : later'.video.vram = later.video.vram) : b.Copied source target n later' := by
  have bytes : later'.video.vramAt = later.video.vramAt := by
    funext place
    rw [Video.vramAt, Video.vramAt, same]
  refine ⟨?_, ?_, ?_⟩
  all_goals rw [bytes]
  · exact h.elsewhere
  · exact h.fresh
  · exact h.again

end Bus

end DotMatrix
