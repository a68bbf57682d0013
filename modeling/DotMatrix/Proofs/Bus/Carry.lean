import DotMatrix.Proofs.Bus.Course

/-!
# What time does to a block transfer

A block transfer that runs with the lines is carried on at the end of each visible line, which
happens somewhere inside a step of the bus. Time has no other part in it: `Bus.haul` collects what a
transfer reads and fills, its registers and its cost, and all that time does to the haul is to carry
the transfer on once for each line that ends. So a run of the bus is replaced by the number of lines
in it.

Results:
* `settleLines`, `lines`, `steps_seen`: the lines that end, which are those that the host counts.
* `carry_congr`: what a block does to the haul depends on the haul alone.
* **`steps_haul`**: steps of any lengths carry the transfer on as often as lines end.
* `during_haul`: so does the part of a step up to any of its steps of the frame.
-/

namespace DotMatrix

namespace Bus

/-! ## Lines -/

/-- Whether the next step of the frame ends the drawing of a line. -/
def endsLine (b : Bus) : Bool :=
  b.run.advance.2 == some .hblank

/-- How many lines end while the steps of the frame that are due are made. -/
def settleLines (b : Bus) : Nat :=
  if _ : b.video.pending = true then b.advanceVideo.settleLines + b.endsLine.toNat else 0
termination_by (1 - b.video.nextCycles).toNat
decreasing_by
  have due : b.video.pending = true := by assumption
  have later := advanceVideo_nextCycles b due
  have behind := Video.nextCycles_of_pending due
  omega

/-- The bus after some steps. -/
def steps (b : Bus) : List Nat → Bus
  | [] => b
  | n :: ns => (b.step n).steps ns

/-- How many lines end in some steps. -/
def lines (b : Bus) : List Nat → Nat
  | [] => 0
  | n :: ns => (b.ticked n).settleLines + (b.step n).lines ns

/-- A step gives the cycles to the devices, and then makes the steps of the frame that are due. -/
theorem step_ticked (b : Bus) (cycles : Nat) : b.step cycles = (b.ticked cycles).settle := rfl

/-! ## The host's count -/

/-- How many lines the host has counted. -/
def seen (b : Bus) : Option Nat :=
  b.hooks.lines.map Array.size

theorem ticked_seen (b : Bus) (cycles : Nat) : (b.ticked cycles).seen = b.seen := by
  have timer : (b.stepTimer cycles).hooks = b.hooks := by rw [stepTimer, afterTimer_eq]
  exact congrArg (fun hooks : Hooks => hooks.lines.map Array.size) timer

theorem endLine_seen (b : Bus) : b.endLine.seen = b.seen.map (· + 1) := by
  have carried : (if b.video.transfer.active then b.transferBlock else b).hooks = b.hooks := by
    split
    · obtain ⟨vram, -, filled⟩ := transferBlock_fills b
      rw [filled]
    · rfl
  unfold endLine countHblank seen
  rw [carried]
  cases b.hooks.lines <;> simp

theorem advanceVideo_seen (b : Bus) :
    b.advanceVideo.seen = b.seen.map (· + b.endsLine.toNat) := by
  unfold advanceVideo endsLine
  change (onEvent _ b.run.advance.2).seen = _
  cases b.run.advance.2 with
  | none => exact Option.map_id'.symm
  | some event =>
    cases event with
    | hblank => exact endLine_seen _
    | vblank => exact Option.map_id'.symm

theorem settle_seen (b : Bus) : b.settle.seen = b.seen.map (· + b.settleLines) := by
  fun_induction settleLines b with
  | case1 b due ih =>
    rw [settle, dif_pos due, ih, advanceVideo_seen, Option.map_map]
    congr
    funext n
    exact (Nat.add_assoc n _ _).trans (congrArg (n + ·) (Nat.add_comm _ _))
  | case2 b idle =>
    rw [settle, dif_neg idle]
    simp

/-- The host counts the lines that end. -/
theorem steps_seen (b : Bus) (portions : List Nat) :
    (b.steps portions).seen = b.seen.map (· + b.lines portions) := by
  induction portions generalizing b with
  | nil => simp [steps, lines]
  | cons n ns ih =>
    rw [steps, ih, step_ticked, settle_seen, ticked_seen, Option.map_map]
    congr
    funext m
    exact Nat.add_assoc m _ _

/-! ## The haul -/

/-- What a block transfer works with: what it can read, the memory it fills, its registers, the
speed that its cost depends on, and the cost. -/
structure Haul where
  slots : Vector Slot 16
  cart : Option Cartridge
  wram : Array UInt8
  model : Model
  key1 : UInt8
  stall : Nat
  video : Array UInt8 × UInt8 × Model × BlockTransfer × Palette × Layers

/-- The haul of a bus. -/
def haul (b : Bus) : Haul :=
  { slots := b.slots
    cart := b.cart
    wram := b.wram
    model := b.model
    key1 := b.key1
    stall := b.stall
    video := b.video.backing }

/-- The transfer is carried on by a block, if there is one that runs with the lines. -/
def carry (b : Bus) : Bus :=
  if b.video.transfer.active then b.transferBlock else b

/-- However often the transfer is carried on, it fills video memory, moves on and has a cost, and
that is all. -/
theorem iterate_carry_fills (b : Bus) (k : Nat) :
    ∃ stall vram transfer, carry^[k] b =
      { b with stall := stall, video := { b.video with vram := vram, transfer := transfer } } := by
  induction k with
  | zero => exact ⟨_, _, _, rfl⟩
  | succ k ih =>
    obtain ⟨stall, vram, transfer, before⟩ := ih
    rw [Function.iterate_succ_apply', before]
    unfold carry
    split
    · obtain ⟨vram, -, filled⟩ := transferBlock_fills
        { b with stall := stall, video := { b.video with vram := vram, transfer := transfer } }
      exact ⟨_, _, _, filled⟩
    · exact ⟨_, _, _, rfl⟩

section Congruence

variable {b b' : Bus}

theorem haul_vram (same : b.haul = b'.haul) : b.video.vram = b'.video.vram :=
  congrArg (fun h => h.video.1) same

theorem haul_transfer (same : b.haul = b'.haul) : b.video.transfer = b'.video.transfer :=
  congrArg (fun h => h.video.2.2.2.1) same

theorem readSlot_congr (same : b.haul = b'.haul) (addr : UInt16) :
    b.readSlot addr = b'.readSlot addr := by
  have slots : b.slots = b'.slots := congrArg Haul.slots same
  have cart : b.cart = b'.cart := congrArg Haul.cart same
  have wram : b.wram = b'.wram := congrArg Haul.wram same
  simp only [readSlot, slotAt, slots, cart, wram, Video.vramAt, haul_vram same]

theorem copyByte_congr (same : b.haul = b'.haul) (source target : UInt16) :
    (b.copyByte source target).haul = (b'.copyByte source target).haul := by
  have bank : b.video.vbk = b'.video.vbk := congrArg (fun h => h.video.2.1) same
  have byte := readSlot_congr same source
  simp only [haul, Haul.mk.injEq, Video.backing, Prod.mk.injEq] at same ⊢
  simp only [copyByte, Video.setVramAt, bank, byte, same]
  trivial

theorem copyToVram_congr (same : b.haul = b'.haul) (source target : UInt16) (n : Nat) :
    (b.copyToVram source target n).haul = (b'.copyToVram source target n).haul := by
  induction n generalizing b b' source target with
  | zero => exact same
  | succ n ih => exact ih (copyByte_congr same source target) _ _

theorem updateTransfer_congr (same : b.haul = b'.haul) (f : BlockTransfer → BlockTransfer) :
    (b.updateTransfer f).haul = (b'.updateTransfer f).haul := by
  simp only [haul, Haul.mk.injEq, Video.backing, Prod.mk.injEq] at same ⊢
  simp only [updateTransfer, same]
  trivial

theorem chargeBlocks_congr (same : b.haul = b'.haul) (n : Nat) :
    (b.chargeBlocks n).haul = (b'.chargeBlocks n).haul := by
  simp only [haul, Haul.mk.injEq] at same ⊢
  simp only [chargeBlocks, blockCycles, doubleSpeed, same]
  trivial

theorem transferBlock_congr (same : b.haul = b'.haul) :
    b.transferBlock.haul = b'.transferBlock.haul := by
  unfold transferBlock
  rw [haul_transfer same]
  exact updateTransfer_congr (chargeBlocks_congr (copyToVram_congr same _ _ _) 1) _

/-- **Carrying on** depends on the haul alone. -/
theorem carry_congr (same : b.haul = b'.haul) : b.carry.haul = b'.carry.haul := by
  unfold carry
  rw [haul_transfer same]
  split
  · exact transferBlock_congr same
  · exact same

theorem iterate_carry_congr (same : b.haul = b'.haul) (k : Nat) :
    (carry^[k] b).haul = (carry^[k] b').haul := by
  induction k generalizing b b' with
  | zero => exact same
  | succ k ih => exact ih (carry_congr same)

end Congruence

/-! ## Time -/

theorem ticked_haul (b : Bus) (cycles : Nat) : (b.ticked cycles).haul = b.haul := by
  have timer : (b.stepTimer cycles).haul = b.haul := by
    rw [stepTimer, afterTimer_eq]
    rfl
  rw [← timer]
  simp only [ticked, haul, Video.tick_backing]

/-- A step of the frame carries the transfer on if it ends a line, and leaves the haul alone
otherwise. -/
theorem advanceVideo_haul (b : Bus) :
    b.advanceVideo.haul = (if b.endsLine then b.carry else b).haul := by
  have frame : haul { b with video := b.run.advance.1.video, requests := b.run.advance.1.requests } =
      b.haul := by
    simp only [haul, Video.Run.advance_backing]
    rfl
  unfold advanceVideo endsLine
  change (onEvent _ b.run.advance.2).haul = _
  cases b.run.advance.2 with
  | none => exact frame
  | some event =>
    cases event with
    | hblank => exact carry_congr frame
    | vblank => exact frame

/-- In a step, the transfer has been carried on some number of times. -/
theorem during_haul (b : Bus) (cycles k : Nat) :
    ∃ j, (b.during cycles k).haul = (carry^[j] b).haul := by
  induction k with
  | zero => exact ⟨0, ticked_haul b cycles⟩
  | succ k ih =>
    obtain ⟨j, carried⟩ := ih
    rw [during_succ, advanceVideo_haul]
    split
    · refine ⟨j + 1, ?_⟩
      rw [Function.iterate_succ_apply']
      exact carry_congr carried
    · exact ⟨j, carried⟩

theorem settle_haul (b : Bus) : b.settle.haul = (carry^[b.settleLines] b).haul := by
  fun_induction settleLines b with
  | case1 b due ih =>
    rw [settle, dif_pos due, ih, iterate_carry_congr (advanceVideo_haul b)]
    cases b.endsLine <;> rfl
  | case2 b idle =>
    rw [settle, dif_neg idle]
    rfl

/-- A step carries the transfer on as often as lines end in it. -/
theorem step_haul (b : Bus) (cycles : Nat) :
    (b.step cycles).haul = (carry^[(b.ticked cycles).settleLines] b).haul := by
  rw [step_ticked, settle_haul, iterate_carry_congr (ticked_haul b cycles)]

/-- **Steps of any lengths** carry the transfer on as often as lines end, and have no other part in
what it works with. -/
theorem steps_haul (b : Bus) (portions : List Nat) :
    (b.steps portions).haul = (carry^[b.lines portions] b).haul := by
  induction portions generalizing b with
  | nil => rfl
  | cons n ns ih =>
    rw [steps, ih, iterate_carry_congr (step_haul b n), lines, Nat.add_comm,
      Function.iterate_add_apply]

/-- The speed stays what it is. -/
theorem step_doubleSpeed (b : Bus) (cycles : Nat) : (b.step cycles).doubleSpeed = b.doubleSpeed := by
  obtain ⟨stall, vram, transfer, carried⟩ := iterate_carry_fills b (b.ticked cycles).settleLines
  have key1 := congrArg Haul.key1 (step_haul b cycles)
  rw [carried] at key1
  exact congrArg (hasBit · 0x80) key1

theorem step_baseCycles (b : Bus) (cycles : Nat) : (b.step cycles).baseCycles = b.baseCycles := by
  funext n
  rw [baseCycles, step_doubleSpeed, baseCycles]

end Bus

end DotMatrix
