import DotMatrix.Proofs.Bus.Copied
import DotMatrix.Proofs.Bus.Lines
import DotMatrix.Proofs.Bus.Status

/-!
# Blocks with the lines, and all at once

The blocks of a transfer are copied by one loop over all bytes, or by a machine that copies one
block at the end of each line and keeps the source, the target, the length and the status in
registers of its own. `moved n k` is the bus on which the loop has stopped after `k` of `n` blocks,
with those registers as the machine has them by then: a block leads from `moved n k` to
`moved n (k + 1)`, and so the machine is the loop, cut into blocks. The loop counts the target on
past the end of the memory where the machine starts over: for the memory both are the same place
(`copyToVram_target`). Which bytes these are is known of the loop (`copyToVram_copied`).

Results:
* `blockDone_after`, `transferBlock_moved`: a block, in the registers and on the bus.
* `iterate_carry_moved`: the machine after any number of lines.
* **`transfers_agree`**: after as many lines as there are blocks, both ways have copied the bytes of
  all blocks; until then the machine has copied those of one block for each line; and so many lines
  do end.
-/

namespace DotMatrix

namespace BlockTransfer

theorem targetRegister_block (t : BlockTransfer) :
    t.targetRegister.toNat % 16 = 0 ∧ t.targetRegister.toNat < 0x2000 := by
  have small : t.targetHigh &&& 0x1F < 32 := and_lt (by decide) t.targetHigh
  have high : (t.targetHigh &&& 0x1F).toNat < 32 := UInt8.lt_iff_toNat_lt.mp small
  have low : (t.targetLow &&& 0xF0).toNat % 16 = 0 := by
    rw [UInt8.toNat_and, ← Nat.and_two_pow_sub_one_eq_mod _ 4, Nat.and_assoc]
    exact Nat.and_zero _
  have byte := (t.targetLow &&& 0xF0).toNat_lt
  rw [targetRegister, word_toNat]
  omega

/-- The transfer of `n` blocks with `k` of them behind it. -/
def after (t : BlockTransfer) (n k : Nat) : BlockTransfer :=
  { t with
    source := t.sourceRegister + (16 * k).toUInt16
    target := (t.targetRegister + (16 * k).toUInt16) &&& 0x1FF0
    length := (16 * (n - k)).toUInt16
    status := if k = n then 0xFF else (n - k - 1).toUInt8 }

end BlockTransfer

namespace Bus

variable {b : Bus}

/-! ## The loop -/

theorem copyToVram_updateTransfer (n : Nat) (b : Bus) (source target : UInt16)
    (f : BlockTransfer → BlockTransfer) :
    (b.updateTransfer f).copyToVram source target n =
      (b.copyToVram source target n).updateTransfer f := by
  induction n generalizing b source target with
  | zero => rfl
  | succ n ih => exact ih (b.copyByte source target) _ _

theorem copyToVram_chargeBlocks (n : Nat) (b : Bus) (source target : UInt16) (blocks : Nat) :
    (b.chargeBlocks blocks).copyToVram source target n =
      (b.copyToVram source target n).chargeBlocks blocks := by
  induction n generalizing b source target with
  | zero => rfl
  | succ n ih => exact ih (b.copyByte source target) _ _

theorem chargeBlocks_updateTransfer (b : Bus) (blocks : Nat) (f : BlockTransfer → BlockTransfer) :
    (b.updateTransfer f).chargeBlocks blocks = (b.chargeBlocks blocks).updateTransfer f := rfl

theorem updateTransfer_updateTransfer (b : Bus) (t : BlockTransfer)
    (f : BlockTransfer → BlockTransfer) :
    (b.updateTransfer fun _ => t).updateTransfer f = b.updateTransfer fun _ => f t := rfl

/-- Blocks have their cost one by one. -/
theorem chargeBlocks_chargeBlocks (b : Bus) (m n : Nat) :
    (b.chargeBlocks m).chargeBlocks n = b.chargeBlocks (m + n) := by
  have cost : b.blockCycles (m + n) = b.blockCycles m + b.blockCycles n := by
    unfold blockCycles
    split <;> exact Nat.add_mul m n _
  have sum : b.stall + b.blockCycles m + b.blockCycles n = b.stall + b.blockCycles (m + n) := by
    rw [cost, Nat.add_assoc]
  exact congrArg (fun stall => { b with stall := stall }) sum

/-! ## Registers -/

/-- The bytes of some blocks, counted up by a block. -/
theorem bytes_succ (k : Nat) : (16 * (k + 1)).toUInt16 = (16 * k).toUInt16 + 0x10 :=
  UInt16.ofNat_add (16 * k) 16

theorem bytes_eq_zero {k : Nat} (most : k ≤ 128) : ((16 * k).toUInt16 == 0) = decide (k = 0) := by
  have bytes : (16 * k).toUInt16.toNat = 16 * k :=
    UInt16.toNat_ofNat_of_lt' (Nat.lt_of_le_of_lt (Nat.mul_le_mul_left 16 most) (by decide))
  rw [Bool.eq_iff_iff, beq_iff_eq, decide_eq_true_iff, ← UInt16.toNat_inj, bytes]
  change 16 * k = 0 ↔ k = 0
  omega

theorem target_whole (t : BlockTransfer) (k : Nat) :
    (t.targetRegister + (16 * k).toUInt16).toNat % 16 = 0 := by
  have block := t.targetRegister_block.1
  rw [UInt16.toNat_add, Nat.toUInt16, UInt16.toNat_ofNat']
  omega

/-- The machine's target starts over where a bank ends. -/
theorem target_succ (t : BlockTransfer) (k : Nat) :
    (((t.targetRegister + (16 * k).toUInt16) &&& 0x1FF0) + 0x10) &&& 0x1FF0 =
      (t.targetRegister + (16 * (k + 1)).toUInt16) &&& 0x1FF0 := by
  have whole := target_whole t k
  rw [bytes_succ, ← UInt16.add_assoc]
  generalize t.targetRegister + (16 * k).toUInt16 = target at whole
  apply UInt16.toNat_inj.mp
  have masked := and_block whole
  have next (w : UInt16) : (w + 0x10).toNat = (w.toNat + 16) % 2 ^ 16 := UInt16.toNat_add w 0x10
  rw [and_block (by rw [next]; omega), and_block (by rw [next]; omega), next, next, masked]
  omega

theorem armed_after (t : BlockTransfer) {n : Nat} (some : 1 ≤ n) : armed t n = t.after n 0 := by
  have source : t.sourceRegister + (16 * 0).toUInt16 = t.sourceRegister := UInt16.add_zero _
  have target : t.targetRegister + (16 * 0).toUInt16 = t.targetRegister := UInt16.add_zero _
  have masked : t.targetRegister &&& 0x1FF0 = t.targetRegister := by
    obtain ⟨whole, inside⟩ := t.targetRegister_block
    exact UInt16.toNat_inj.mp ((and_block whole).trans (Nat.mod_eq_of_lt inside))
  have left : 0 ≠ n := by omega
  rw [armed, BlockTransfer.after, source, target, masked, if_neg left]
  rfl

/-- **A block**, in the registers. -/
theorem blockDone_after (t : BlockTransfer) {n k : Nat} (more : k < n) (most : n ≤ 128) :
    blockDone (t.after n k) = t.after n (k + 1) := by
  have source : t.sourceRegister + (16 * k).toUInt16 + 0x10 =
      t.sourceRegister + (16 * (k + 1)).toUInt16 := by
    rw [bytes_succ, UInt16.add_assoc]
  have left : n - k = n - (k + 1) + 1 := by omega
  have length : (16 * (n - k)).toUInt16 - 0x10 = (16 * (n - (k + 1))).toUInt16 := by
    rw [left, bytes_succ, UInt16.add_sub_cancel]
  have status : (if (16 * (n - (k + 1))).toUInt16 == 0 then 0xFF else (n - k - 1).toUInt8 - 1) =
      if k + 1 = n then 0xFF else (n - (k + 1) - 1).toUInt8 := by
    rw [bytes_eq_zero (Nat.le_trans (Nat.sub_le n _) most)]
    by_cases last : k + 1 = n
    · simp [last]
    · have some : n - (k + 1) ≠ 0 := by omega
      have count : n - k - 1 = n - (k + 1) - 1 + 1 := by omega
      have down : (n - k - 1).toUInt8 - 1 = (n - (k + 1) - 1).toUInt8 := by
        rw [count, Nat.toUInt8, UInt8.ofNat_add]
        exact UInt8.add_sub_cancel _ 1
      rw [decide_eq_false some, if_neg last, down]
      rfl
  have here : k ≠ n := by omega
  simp only [blockDone, BlockTransfer.after, if_neg here, source, target_succ, length, status]

theorem after_active (t : BlockTransfer) {n : Nat} (most : n ≤ 128) (k : Nat) :
    (t.after n k).active = decide (k < n) := by
  have left : n - k ≤ 128 := by omega
  rw [BlockTransfer.active, bne, BlockTransfer.after, bytes_eq_zero left, ← decide_not]
  congr 1
  rw [eq_iff_iff]
  omega

/-! ## The machine -/

/-- The bus with the first `k` of `n` blocks behind it. -/
def moved (b : Bus) (n k : Nat) : Bus :=
  ((b.copyToVram b.video.transfer.sourceRegister b.video.transfer.targetRegister
    (16 * k)).chargeBlocks k).updateTransfer fun _ => b.video.transfer.after n k

/-- **A block**, on the bus. -/
theorem transferBlock_moved (b : Bus) {n k : Nat} (more : k < n) (most : n ≤ 128) :
    (b.moved n k).transferBlock = b.moved n (k + 1) := by
  have wrapped : ((b.video.transfer.targetRegister + (16 * k).toUInt16) &&& 0x1FF0).toNat % 0x2000 =
      (b.video.transfer.targetRegister + (16 * k).toUInt16).toNat % 0x2000 := by
    rw [and_block (target_whole _ k), Nat.mod_mod]
  have bytes : 16 * (k + 1) = 16 * k + 16 := rfl
  calc (b.moved n k).transferBlock
      = (((b.moved n k).copyToVram
          (b.video.transfer.sourceRegister + (16 * k).toUInt16)
          ((b.video.transfer.targetRegister + (16 * k).toUInt16) &&& 0x1FF0) 16).chargeBlocks
          1).updateTransfer blockDone := rfl
    _ = ((((b.copyToVram b.video.transfer.sourceRegister b.video.transfer.targetRegister
          (16 * (k + 1))).chargeBlocks k).updateTransfer fun _ =>
          b.video.transfer.after n k).chargeBlocks 1).updateTransfer blockDone := by
      rw [copyToVram_target 16 _ wrapped, moved, copyToVram_updateTransfer,
        copyToVram_chargeBlocks, bytes, copyToVram_add]
    _ = b.moved n (k + 1) := by
      rw [chargeBlocks_updateTransfer, chargeBlocks_chargeBlocks, updateTransfer_updateTransfer,
        blockDone_after _ more most, moved]

theorem carry_moved (b : Bus) {n k : Nat} (most : n ≤ 128) (within : k ≤ n) :
    (b.moved n k).carry = b.moved n (min (k + 1) n) := by
  have active : (b.moved n k).video.transfer.active = decide (k < n) :=
    after_active b.video.transfer most k
  by_cases more : k < n
  · rw [carry, active, decide_eq_true more, if_pos rfl, transferBlock_moved b more most,
      Nat.min_eq_left more]
  · have done : k = n := by omega
    rw [carry, active, decide_eq_false more, if_neg Bool.false_ne_true, done,
      Nat.min_eq_right (Nat.le_succ n)]

/-- **The machine** after any number of lines. -/
theorem iterate_carry_moved (b : Bus) {n : Nat} (most : n ≤ 128) (k : Nat) :
    carry^[k] (b.moved n 0) = b.moved n (min k n) := by
  induction k with
  | zero => rfl
  | succ k ih =>
    rw [Function.iterate_succ_apply', ih, carry_moved b most (Nat.min_le_right k n)]
    congr 1
    omega

/-- Only video memory, the transfer and the cost move. -/
theorem moved_fills (b : Bus) (n k : Nat) :
    ∃ vram, b.moved n k =
      { b with
        stall := b.stall + b.blockCycles k
        video := { b.video with vram := vram, transfer := b.video.transfer.after n k } } := by
  obtain ⟨vram, -, filled⟩ := copyToVram_fills (16 * k) b
    b.video.transfer.sourceRegister b.video.transfer.targetRegister
  exact ⟨vram, congrArg (fun c : Bus =>
    (c.chargeBlocks k).updateTransfer fun _ => b.video.transfer.after n k) filled⟩

theorem moved_zero (b : Bus) {n : Nat} (some : 1 ≤ n) :
    b.moved n 0 = b.updateTransfer fun t => armed t n := by
  have free : b.blockCycles 0 = 0 := by
    unfold blockCycles
    split <;> exact Nat.zero_mul _
  have none : b.chargeBlocks 0 = b :=
    congrArg (fun cycles => { b with stall := b.stall + cycles }) free
  calc b.moved n 0
      = (b.chargeBlocks 0).updateTransfer fun _ => b.video.transfer.after n 0 := rfl
    _ = b.updateTransfer fun _ => armed b.video.transfer n := by rw [none, armed_after _ some]
    _ = b.updateTransfer fun t => armed t n := rfl

/-! ## Both ways -/

/-- A byte that asks for `n` blocks. -/
theorem blocks_toNat {n : Nat} (some : 1 ≤ n) (most : n ≤ 128) :
    (n - 1).toUInt8.toNat < 128 ∧ (n - 1).toUInt8.toNat + 1 = n := by
  have small : n - 1 < 256 := by omega
  have byte : (n - 1).toUInt8.toNat = n - 1 := UInt8.toNat_ofNat_of_lt' small
  omega

/-- Writing FF55 with bit 7 arms the machine. -/
theorem write_armed (colour : b.isColour = true) {n : Nat} (some : 1 ≤ n) (most : n ≤ 128) :
    b.write 0xFF55 (0x80 ||| (n - 1).toUInt8) = b.moved n 0 := by
  obtain ⟨low, count⟩ := blocks_toNat some most
  have top : hasBit (0x80 ||| (n - 1).toUInt8) 0x80 = true := by
    rw [hasBit_or]
    exact Bool.true_or _
  have blocks : (0x80 ||| (n - 1).toUInt8) &&& 0x7F = (n - 1).toUInt8 := by
    have kept := congrArg UInt8.toNat (and_low low)
    rw [UInt8.toNat_and] at kept
    apply UInt8.toNat_inj.mp
    rw [UInt8.toNat_and, UInt8.toNat_or, Nat.and_or_distrib_right, kept]
    exact Nat.zero_or _
  rw [write_transfer b _ colour, writeTransfer, moved_zero b some, blocks, count, if_pos top]

/-- Writing FF55 without bit 7 runs the loop. -/
theorem write_now (colour : b.isColour = true) (idle : b.video.transfer.active = false) {n : Nat}
    (some : 1 ≤ n) (most : n ≤ 128) :
    b.write 0xFF55 (n - 1).toUInt8 = b.transferNow n := by
  obtain ⟨low, count⟩ := blocks_toNat some most
  rw [write_transfer b _ colour, writeTransfer, and_low low, count, hasBit_top low, idle]
  rfl

/-- What there is to see of a bus with the haul of one on which `k` of `n` blocks are copied. -/
theorem later_of_haul {later : Bus} {n k : Nat} (same : later.haul = (b.moved n k).haul)
    (colour : b.isColour = true) (model : b.video.model = b.model) :
    later.video.vram = (b.copyToVram b.video.transfer.sourceRegister
        b.video.transfer.targetRegister (16 * k)).video.vram ∧
      later.stall = b.stall + b.blockCycles k ∧
      later.video.transfer = b.video.transfer.after n k ∧
      later.read 0xFF55 = (b.video.transfer.after n k).status := by
  have memory : later.video.vram = (b.moved n k).video.vram := haul_vram same
  have transfer : later.video.transfer = b.video.transfer.after n k := haul_transfer same
  refine ⟨memory, ?_, transfer, ?_⟩
  all_goals
    obtain ⟨vram, filled⟩ := moved_fills b n k
    rw [filled] at same
  · exact congrArg Haul.stall same
  · have whole : later.model = b.model := congrArg Haul.model same
    have unit : later.video.model = b.video.model := congrArg (fun h => h.video.2.2.1) same
    have colour' : later.isColour = true := (congrArg Model.isColour whole).trans colour
    rw [read_transfer later colour' (unit.trans (model.trans whole.symm)), transfer]

/-- What there is to see when all blocks have been copied at once. -/
theorem transferNow_seen (colour : b.isColour = true) (model : b.video.model = b.model) (n : Nat) :
    (b.transferNow n).stall = b.stall + b.blockCycles n ∧
      (b.transferNow n).video.transfer = { b.video.transfer with status := 0xFF } ∧
      (b.transferNow n).read 0xFF55 = 0xFF := by
  obtain ⟨vram, -, filled⟩ := transferNow_fills b n
  rw [filled]
  exact ⟨rfl, rfl, read_transfer _ colour model⟩

/-- Both ways are over, with all `n` blocks of the bus `b` in the same memory, at the same cost. -/
structure Agree (b now later : Bus) (n : Nat) : Prop where
  copied : b.Copied b.video.transfer.sourceRegister b.video.transfer.targetRegister (16 * n) now
  vram : later.video.vram = now.video.vram
  stall : later.stall = now.stall
  status : later.read 0xFF55 = 0xFF ∧ now.read 0xFF55 = 0xFF
  idle : later.video.transfer.active = false ∧ now.video.transfer.active = false

/-- Of the `n` blocks that the bus `b` is to copy, `k` have been copied, where the loop would have
stopped after so many bytes. -/
structure Partway (b later : Bus) (n k : Nat) : Prop where
  copied : b.Copied b.video.transfer.sourceRegister b.video.transfer.targetRegister (16 * k) later
  vram : later.video.vram =
    (b.copyToVram b.video.transfer.sourceRegister b.video.transfer.targetRegister
      (16 * k)).video.vram
  stall : later.stall = b.stall + b.blockCycles k
  status : later.read 0xFF55 = (n - k - 1).toUInt8
  active : later.video.transfer.active = true

theorem agree_of_haul {later : Bus} {n : Nat} (same : later.haul = (b.moved n n).haul)
    (full : b.video.vram.size = Video.vramSize) (colour : b.isColour = true)
    (model : b.video.model = b.model) (idle : b.video.transfer.active = false) (most : n ≤ 128) :
    Agree b (b.transferNow n) later n := by
  obtain ⟨vram, stall, transfer, status⟩ := later_of_haul same colour model
  obtain ⟨stall', transfer', status'⟩ := transferNow_seen colour model n
  have done : (b.video.transfer.after n n).status = 0xFF := if_pos rfl
  refine ⟨(copyToVram_copied full (by omega)).congr rfl, vram, stall.trans stall'.symm,
    ⟨status.trans done, status'⟩, ?_, ?_⟩
  · rw [transfer, after_active _ most, decide_eq_false (Nat.lt_irrefl n)]
  · rw [transfer']
    exact idle

theorem partway_of_haul {later : Bus} {n k : Nat} (same : later.haul = (b.moved n k).haul)
    (full : b.video.vram.size = Video.vramSize) (colour : b.isColour = true)
    (model : b.video.model = b.model) (more : k < n) (most : n ≤ 128) : Partway b later n k := by
  obtain ⟨vram, stall, transfer, status⟩ := later_of_haul same colour model
  have left : (b.video.transfer.after n k).status = (n - k - 1).toUInt8 :=
    if_neg (Nat.ne_of_lt more)
  refine ⟨(copyToVram_copied full (by omega)).congr vram, vram, stall, status.trans left, ?_⟩
  rw [transfer, after_active _ most, decide_eq_true more]

/-- To arm the machine does not put off the lines. -/
theorem le_lines_moved {n : Nat} (attained : (b.moved n 0).Attained fun _ => True)
    (on : b.video.lcdOn = true) {portions : List Nat} (short : ∀ m ∈ portions, Video.Short m)
    (enough : b.video.nextCycles + 5016 * n ≤ (portions.map b.baseCycles).sum) :
    n ≤ (b.moved n 0).lines portions := by
  obtain ⟨vram, filled⟩ := moved_fills b n 0
  rw [filled] at attained ⊢
  exact le_lines attained on short enough

/-- **Both ways agree**: on a colour console, however it has come about (`Reachable.tracked`,
`Reachable.mapped`), with the screen on and no transfer running, `n` blocks are asked for in both
ways, from whatever source to whatever target. Once `n` lines have ended, in steps of any lengths,
the machine has left the same memory at the same cost as the loop, with the bytes of all blocks in
it, and both read as done. After fewer lines it has copied the bytes of one block for each and
nothing else, and reads as the number of blocks left less one. And so many lines do end. The lines
are those that the host counts (`steps_seen`). -/
theorem transfers_agree {asked : Bool} (h : b.Tracked asked)
    (full : b.video.vram.size = Video.vramSize) (colour : b.isColour = true)
    (on : b.video.lcdOn = true) (idle : b.video.transfer.active = false) {n : Nat} (some : 1 ≤ n)
    (most : n ≤ 128) :
    let now := b.write 0xFF55 (n - 1).toUInt8
    let armed := b.write 0xFF55 (0x80 ||| (n - 1).toUInt8)
    (∀ portions, n ≤ armed.lines portions → Agree b now (armed.steps portions) n) ∧
      (∀ portions, armed.lines portions < n →
        Partway b (armed.steps portions) n (armed.lines portions)) ∧
      ∀ portions, (∀ m ∈ portions, Video.Short m) →
        b.video.nextCycles + 5016 * n ≤ (portions.map b.baseCycles).sum →
        n ≤ armed.lines portions := by
  have model : b.video.model = b.model := h.inOrder.model
  have attained := (h.write 0xFF55 (0x80 ||| (n - 1).toUInt8)).attained
  rw [write_armed colour some most] at attained ⊢
  rw [write_now colour idle some most]
  intro now armed
  have hauled (portions : List Nat) :
      (armed.steps portions).haul = (b.moved n (min (armed.lines portions) n)).haul := by
    rw [steps_haul, iterate_carry_moved b most]
  refine ⟨fun portions done => ?_, fun portions more => ?_, fun portions short enough => ?_⟩
  · have same := hauled portions
    rw [Nat.min_eq_right done] at same
    exact agree_of_haul same full colour model idle most
  · have same := hauled portions
    rw [Nat.min_eq_left (Nat.le_of_lt more)] at same
    exact partway_of_haul same full colour model more most
  · exact le_lines_moved attained on short enough

/-- A colour console at power-up, with a byte at `8000`, and with a transfer prepared from there to
`8010`, so that each block comes from the one before it. -/
def chained : Bus :=
  (((new .gbc).write 0x8000 0x5C).write 0xFF51 0x80).write 0xFF54 0x10

/-- A line is looked up and drawn, and then there is a rest. -/
theorem chained_lines : (chained.write 0xFF55 0x82).lines [252] = 1 := by
  have scan : ((chained.write 0xFF55 0x82).ticked 252).video.pending = true := by
    decide +kernel
  have draw : ((chained.write 0xFF55 0x82).ticked 252).advanceVideo.video.pending = true := by
    decide +kernel
  have rest : ¬ ((chained.write 0xFF55 0x82).ticked 252).advanceVideo.advanceVideo.video.pending =
      true := by
    decide +kernel
  rw [lines, lines, settleLines, dif_pos scan, settleLines, dif_pos draw, settleLines, dif_neg rest]
  decide +kernel

/-- Three blocks of the chain. After the first line the byte stands at `8010` and not yet at `8020`.
When all is done it stands at `8030`, as it does when all is done at once. -/
theorem transfers_agree_chained :
    let now := chained.write 0xFF55 0x02
    let armed := chained.write 0xFF55 0x82
    chained.Reachable ∧ chained.video.vram.size = Video.vramSize ∧ chained.isColour = true ∧
      chained.video.lcdOn = true ∧ chained.video.transfer.active = false ∧
      Partway chained (armed.step 252) 3 1 ∧ (armed.step 252).video.vramAt 0x10 = 0x5C ∧
      (armed.step 252).video.vramAt 0x20 = 0 ∧
      Agree chained now (armed.step 15128) 3 ∧ now.video.vramAt 0x30 = 0x5C := by
  intro now armed
  have reached : chained.Reachable :=
    (((Reachable.new .gbc).write 0x8000 0x5C).write 0xFF51 0x80).write 0xFF54 0x10
  have full := reached.mapped.vram
  obtain ⟨asked, tracked⟩ := reached.tracked
  obtain ⟨agree, partway, enough⟩ :=
    transfers_agree tracked full rfl rfl rfl (n := 3) (by decide) (by decide)
  have first : Partway chained (armed.step 252) 3 1 := by
    have more : armed.lines [252] < 3 := chained_lines ▸ by decide
    exact chained_lines ▸ partway [252] more
  have all : Agree chained now (armed.step 15128) 3 :=
    agree [15128] (enough [15128] (by decide) (by decide))
  have source : chained.video.transfer.sourceRegister = 0x8000 := rfl
  have target : chained.video.transfer.targetRegister = 0x0010 := rfl
  have head : chained.landing 0x0010 0x00 = 0x10 ∧
      chained.look (chained.origin 0x8000 0x00) = 0x5C := by
    decide +kernel
  have chain : chained.landing 0x0010 0x20 = 0x30 ∧
      chained.origin 0x8000 0x20 = .vram (chained.landing 0x0010 0x10) ∧
      chained.origin 0x8000 0x10 = .vram (chained.landing 0x0010 0x00) := by
    decide +kernel
  have begun {later : Bus} {n : Nat} (some : 0 < n)
      (copied : chained.Copied 0x8000 0x0010 n later) :
      later.video.vramAt (chained.landing 0x0010 0x00) = 0x5C :=
    (copied.fresh 0 some fun _ none => absurd none (Nat.not_lt_zero _)).trans head.2
  have early := first.copied
  have late := all.copied
  rw [source, target] at early late
  have one := head.1 ▸ begun (by decide) early
  have still : (armed.step 252).video.vramAt 0x20 = 0 :=
    (early.elsewhere 0x20 (by decide +kernel)).trans (by decide +kernel)
  have three : now.video.vramAt 0x30 = 0x5C := by
    rw [← chain.1, late.again 0x20 (by decide) 0x10 (by decide) chain.2.1,
      late.again 0x10 (by decide) 0x00 (by decide) chain.2.2]
    exact begun (by decide) late
  exact ⟨reached, full, rfl, rfl, rfl, first, one, still, all, three⟩

end Bus

end DotMatrix
