import DotMatrix.Bus.Clock
import DotMatrix.Proofs.Word

/-!
# What the operations of the bus do

A write goes to one part of the bus, which the address tells; a block transfer fills video memory; the
timer hands edges on to the sound unit. Each is said once here, as what the bus is afterwards, so that what they leave alone can be read
off.

Results:
* `afterTimer_eq`: what an operation of the timer hands on.
* `copyToVram_fills`, `transferBlock_fills`, `transferNow_fills`, `writeTransfer_fills`: what the
  blocks of a transfer do, and the register that asks for them.
* **`write_wrote`**: what a write does, by the part that it goes to.
-/

namespace DotMatrix

namespace Bus

/-! ## Timers -/

/-- A timer operation leaves the timer and the requests, and the steps of the sound sequencer that it
has handed on. -/
theorem afterTimer_eq (b : Bus) (r : Timer.Run) : b.afterTimer r =
    { b with
      timer := r.timer
      requests := r.requests
      sound := b.sound.stepSequencerMany r.edges } := by
  unfold afterTimer clockSound
  split
  next none =>
    rw [none]
    rfl
  · rfl

/-! ## Blocks -/

/-- A copy fills video memory and changes nothing else. -/
theorem copyToVram_fills (n : Nat) (b : Bus) (source target : UInt16) :
    ∃ vram, vram.size = b.video.vram.size ∧
      b.copyToVram source target n = { b with video := { b.video with vram := vram } } := by
  induction n generalizing b source target with
  | zero => exact ⟨b.video.vram, rfl, rfl⟩
  | succ n ih =>
    obtain ⟨vram, size, rest⟩ := ih (b.copyByte source target) (source + 1) (target + 1)
    exact ⟨vram, size.trans Array.size_setIfInBounds, rest⟩

/-- A block fills video memory, moves the transfer on and has its cost. -/
theorem transferBlock_fills (b : Bus) :
    ∃ vram, vram.size = b.video.vram.size ∧ b.transferBlock =
      { b with
        stall := b.stall + b.blockCycles 1
        video := { b.video with vram := vram, transfer := blockDone b.video.transfer } } := by
  obtain ⟨vram, size, filled⟩ :=
    copyToVram_fills 16 b b.video.transfer.source b.video.transfer.target
  exact ⟨vram, size, congrArg (fun c : Bus => (c.chargeBlocks 1).updateTransfer blockDone) filled⟩

/-- So do all blocks at once, with the status of a transfer that is done. -/
theorem transferNow_fills (b : Bus) (blocks : Nat) :
    ∃ vram, vram.size = b.video.vram.size ∧ b.transferNow blocks =
      { b with
        stall := b.stall + b.blockCycles blocks
        video := { b.video with
          vram := vram, transfer := { b.video.transfer with status := 0xFF } } } := by
  obtain ⟨vram, size, filled⟩ := copyToVram_fills (16 * blocks) b
    b.video.transfer.sourceRegister b.video.transfer.targetRegister
  exact ⟨vram, size, congrArg (fun c : Bus =>
    (c.updateTransfer fun t => { t with status := 0xFF }).chargeBlocks blocks) filled⟩

/-- Whatever is written to FF55, it is the transfer, video memory, the cost and the notices that
change. -/
theorem writeTransfer_fills (b : Bus) (val : UInt8) :
    ∃ stall notices vram transfer, vram.size = b.video.vram.size ∧ b.writeTransfer val =
      { b with
        stall := stall
        notices := notices
        video := { b.video with vram := vram, transfer := transfer } } := by
  unfold writeTransfer
  simp only
  split
  · exact ⟨_, _, _, _, rfl, rfl⟩
  split
  · exact ⟨_, _, _, _, rfl, rfl⟩
  · obtain ⟨vram, size, filled⟩ := transferNow_fills b ((val &&& 0x7F).toNat + 1)
    exact ⟨_, _, _, _, size, filled⟩

/-! ## Writes -/

/-- What a write may do to the bus, with what is known of the address where it matters. -/
inductive Wrote (b : Bus) (addr : UInt16) (val : UInt8) : Bus → Prop where
  /-- Nothing is there, or the picture unit keeps the processor away. -/
  | nothing : Wrote b addr val b
  /-- A bank register of the cartridge. -/
  | control : Wrote b addr val
      (remap { b with cart := b.cart.map fun c => c.writeControl addr val })
  | vram (place : Nat) : Wrote b addr val { b with video := b.video.setVramAt place val }
  | cartRam : Wrote b addr val (b.writeCartRam addr val)
  | wram : Wrote b addr val (b.writeWram addr val)
  | oam (place : Nat) : Wrote b addr val { b with video := b.video.setOamAt place val }
  | hram (hram : Vector UInt8 0x7F) : Wrote b addr val { b with hram := hram }
  | enables : Wrote b addr val { b with enables := val }
  | joypad : Wrote b addr val { b with joypad := b.joypad.write val }
  | link : Wrote b addr val (b.writeLink addr val)
  | timer : Wrote b addr val (b.writeTimer addr val)
  | requests (here : addr = 0xFF0F) : Wrote b addr val { b with requests := val &&& 0x1F }
  | sound : Wrote b addr val { b with sound := b.sound.write addr val }
  /-- A register of the picture unit. -/
  | picture (other : addr ≠ 0xFF4F) : Wrote b addr val (b.writeVideo addr val)
  /-- The screen goes off where it should not. -/
  | screenOff (here : addr = 0xFF40) (notice : Notice) :
      Wrote b addr val ((b.report notice).writeVideo addr val)
  | objects : Wrote b addr val (b.fillObjects val)
  /-- The change of speed is armed or not; the speed stays. -/
  | speed (key1 : UInt8) (kept : hasBit key1 0x80 = b.doubleSpeed) :
      Wrote b addr val { b with key1 := key1 }
  /-- The bank register of video memory. -/
  | videoBank (here : addr = 0xFF4F) : Wrote b addr val (b.writeVideo addr val).remap
  | transfer (here : addr = 0xFF55) : Wrote b addr val (b.writeTransfer val)
  /-- The bank register of work memory. -/
  | workBank (svbk : UInt8) : Wrote b addr val (remap { b with svbk := svbk })
  | undocumented (bytes : Vector UInt8 4) : Wrote b addr val { b with undocumented := bytes }

variable (b : Bus) (addr : UInt16) (val : UInt8)

theorem writeColourIo_wrote : b.Wrote addr val (b.writeColourIo addr val) := by
  unfold writeColourIo
  by_cases bank : addr = 0xFF4F
  · subst bank
    exact .videoBank rfl
  split
  · exact .speed _ (hasBit_keep b.key1 val)
  split
  next here => exact absurd (beq_iff_eq.mp here) bank
  split
  · exact .picture bank
  split
  next here => exact .transfer (beq_iff_eq.mp here)
  split
  · exact .workBank _
  split
  · exact .undocumented _
  split
  · exact .undocumented _
  · exact .nothing

theorem writeIo_wrote : b.Wrote addr val (b.writeIo addr val) := by
  unfold writeIo
  split
  · exact .joypad
  split
  · exact .link
  split
  · exact .timer
  split
  next here => exact .requests (beq_iff_eq.mp here)
  split
  · exact .sound
  split
  next here =>
    obtain rfl := beq_iff_eq.mp here
    unfold writeLcdc
    split
    · exact .screenOff rfl _
    · exact .picture (by decide)
  split
  · exact .objects
  split
  next range =>
    refine .picture ?_
    rintro rfl
    exact absurd range (by decide)
  split
  · exact writeColourIo_wrote b addr val
  · exact .nothing

/-- **What a write does**, by the part of the bus that it goes to. -/
theorem write_wrote : b.Wrote addr val (b.write addr val) := by
  unfold write
  split
  · unfold writeControl
    split
    · exact .control
    · exact .nothing
  split
  · unfold writeVram
    split
    · exact .nothing
    · exact .vram _
  split
  · exact .cartRam
  split
  · exact .wram
  split
  · unfold writeOam
    split
    · exact .nothing
    · exact .oam _
  split
  · exact .nothing
  split
  · exact writeIo_wrote b addr val
  split
  · exact .hram _
  · exact .enables

end Bus

end DotMatrix
