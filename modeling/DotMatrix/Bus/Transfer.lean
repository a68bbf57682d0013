import DotMatrix.Bus.Basic

/-!
# Transfers

Object memory is filled from a page of the bus at once. On colour models blocks of 16 bytes are
copied into video memory, either all at once or one after each line. The processor stands still
for the blocks: the cycles are noted in `stall` and charged with the next step.
-/

namespace DotMatrix

namespace Bus

/-- The byte that the slots show at an address. -/
def readSlot (b : Bus) (addr : UInt16) : UInt8 :=
  let slot := b.slotAt addr
  match slot.region with
  | .rom => b.cart.elim 0xFF fun c => c.romByte (slot.offset addr)
  | .cartRam => b.cart.elim 0xFF fun c => c.ramByte (slot.offset addr)
  | .clock register => b.cart.elim 0xFF fun c => c.clock.read register
  | .vram => b.video.vramAt (slot.offset addr)
  | .wram => b.wram.getD (slot.offset addr) 0xFF
  | .empty => 0xFF

/-- The page that an object transfer reads: pages past `DF` show work memory again. -/
def objectPage (val : UInt8) : UInt8 :=
  if 0xDF < val then val - 0x20 else val

/-- Fills object memory from a page. -/
def fillObjects (b : Bus) (val : UInt8) : Bus :=
  let source := word (objectPage val) 0
  let oam := Vector.ofFn fun i => b.readSlot (source + i.val.toUInt16)
  { b with video := { b.video with dma := val, oam := oam } }

/-- Copies one byte into the selected bank of video memory. -/
def copyByte (b : Bus) (source target : UInt16) : Bus :=
  let byte := b.readSlot source
  let place := Video.vramIndex (b.video.vbk &&& 1).toNat target
  { b with video := b.video.setVramAt place byte }

/-- Copies the given number of bytes, one after another. -/
def copyToVram (b : Bus) (source target : UInt16) : Nat → Bus
  | 0 => b
  | n + 1 => copyToVram (b.copyByte source target) (source + 1) (target + 1) n

/-- The processor cycles that a number of blocks take. -/
def blockCycles (b : Bus) (blocks : Nat) : Nat :=
  if b.doubleSpeed then blocks * 64 else blocks * 32

/-- Charges the processor for a number of blocks. -/
def chargeBlocks (b : Bus) (blocks : Nat) : Bus :=
  let cycles := b.blockCycles blocks
  { b with stall := b.stall + cycles }

/-- Changes the block transfer. -/
def updateTransfer (b : Bus) (f : BlockTransfer → BlockTransfer) : Bus :=
  { b with video := { b.video with transfer := f b.video.transfer } }

/-- The transfer stopped early: the status keeps the blocks left, with bit 7 set. -/
def cancelled (t : BlockTransfer) : BlockTransfer :=
  { t with status := ((t.length >>> 4).toUInt8 - 1) ||| 0x80, length := 0 }

/-- The transfer armed with the given number of blocks. -/
def armed (t : BlockTransfer) (blocks : Nat) : BlockTransfer :=
  { t with
    source := t.sourceRegister
    target := t.targetRegister
    length := (16 * blocks).toUInt16
    status := (blocks - 1).toUInt8 }

/-- The transfer with one block behind it. -/
def blockDone (t : BlockTransfer) : BlockTransfer :=
  let length := t.length - 0x10
  { t with
    length := length
    source := t.source + 0x10
    target := (t.target + 0x10) &&& 0x1FF0
    status := if length == 0 then 0xFF else t.status - 1 }

/-- Stops the transfer that runs with the lines. -/
def cancelTransfer (b : Bus) : Bus :=
  let b := b.updateTransfer cancelled
  let status := b.video.transfer.status
  b.report (.transferCancelled status)

/-- Copies the given number of blocks at once. -/
def transferNow (b : Bus) (blocks : Nat) : Bus :=
  let source := b.video.transfer.sourceRegister
  let target := b.video.transfer.targetRegister
  let b := b.copyToVram source target (16 * blocks)
  (b.updateTransfer fun t => { t with status := 0xFF }).chargeBlocks blocks

/-- Writes FF55: bit 7 arms a transfer with the lines; without it one that is armed is stopped, or
else all blocks are copied at once. -/
def writeTransfer (b : Bus) (val : UInt8) : Bus :=
  let blocks := (val &&& 0x7F).toNat + 1
  if hasBit val 0x80 then b.updateTransfer fun t => armed t blocks
  else if b.video.transfer.active then b.cancelTransfer
  else b.transferNow blocks

/-- Copies the next block of the transfer that runs with the lines. -/
def transferBlock (b : Bus) : Bus :=
  let source := b.video.transfer.source
  let target := b.video.transfer.target
  ((b.copyToVram source target 16).chargeBlocks 1).updateTransfer blockDone

end Bus

end DotMatrix
