import DotMatrix.Bus.Access

/-!
# Time on the bus

`step` lets processor cycles pass for the timer and, at the base clock, for sound and picture. The
picture unit makes every step of the frame that has become due, one after another (`settle`), and
the end of a line may carry a block transfer on.
-/

namespace DotMatrix

namespace Video

theorem countWindow_nextCycles (v : Video) : v.countWindow.nextCycles = v.nextCycles := by
  unfold countWindow
  split <;> rfl

theorem refreshColours_nextCycles (v : Video) : v.refreshColours.nextCycles = v.nextCycles := by
  unfold refreshColours
  split <;> rfl

theorem renderLine_nextCycles (v : Video) : v.renderLine.nextCycles = v.nextCycles := by
  unfold renderLine
  split
  · rw [countWindow_nextCycles]
    exact refreshColours_nextCycles v
  · exact countWindow_nextCycles v

theorem nextBlankLine_nextCycles (v : Video) : v.nextCycles + 4 ≤ v.nextBlankLine.nextCycles := by
  simp only [nextBlankLine, compareLine]
  split
  · exact Int.le_refl _
  · split <;> simp only <;> omega

namespace Run

theorem beginLine_nextCycles (r : Run) :
    r.video.nextCycles + 4 ≤ r.beginLine.1.video.nextCycles := by
  unfold beginLine
  split
  · simp only [startVblank, enterVblank, enter]
    omega
  · simp only [update, enterScan, enter]
    omega

theorem nextLine_nextCycles (r : Run) :
    r.video.nextCycles + 4 ≤ r.nextLine.1.video.nextCycles :=
  beginLine_nextCycles (r.update countLine)

theorem turn_nextCycles (r : Run) : r.video.nextCycles + 4 ≤ r.turn.1.video.nextCycles := by
  unfold turn
  split
  · exact nextLine_nextCycles r
  · split
    · split
      · simp only [update, enterScan, enter]
        omega
      · exact nextBlankLine_nextCycles r.video
    · split
      · simp only [update, enterDraw, enter]
        omega
      · simp only [update, enterHblank, renderLine_nextCycles, enter]
        omega

/-- A step of the frame that is due moves the next one at least four cycles away. -/
theorem advance_nextCycles (r : Run) (h : r.video.pending = true) :
    r.video.nextCycles + 4 ≤ r.advance.1.video.nextCycles := by
  unfold advance
  simp only [h, if_true]
  exact turn_nextCycles r

end Run

/-- A step of the frame is due only when no cycles are left. -/
theorem nextCycles_of_pending {v : Video} (h : v.pending = true) : v.nextCycles ≤ 0 := by
  unfold pending at h
  simp only [Bool.and_eq_true, decide_eq_true_eq] at h
  exact h.2

end Video

namespace Bus

/-- Takes the processor cycles that transfers have cost. -/
def takeStall (b : Bus) : Bus :=
  { b with stall := 0 }

/-- Whether a STOP instruction switches the speed. -/
def speedArmed (b : Bus) : Bool :=
  b.isColour && hasBit b.key1 0x01

/-- Switches the speed, which clears the divider. -/
def switchSpeed (b : Bus) : Bus :=
  let b := { b with key1 := (b.key1 &&& 0x80) ^^^ 0x80 }
  b.afterTimer ((b.timer.withRequests b.requests).resetDiv b.doubleSpeed)

/-- The host's count at the end of a visible line. -/
def countHblank (b : Bus) : Bus :=
  let ly := b.video.ly
  { b with hooks := { b.hooks with lines := b.hooks.lines.map fun seen => seen.push ly } }

/-- The end of a visible line: a block of the transfer that runs with the lines, and the host's
count. -/
def endLine (b : Bus) : Bus :=
  countHblank (if b.video.transfer.active then b.transferBlock else b)

/-- The end of the visible lines: the host's count. -/
def endFrame (b : Bus) : Bus :=
  { b with hooks := { b.hooks with frames := b.hooks.frames.map fun n => n + 1 } }

/-- What the bus does at a step of the frame. -/
def onEvent (b : Bus) : Option Video.Event → Bus
  | none => b
  | some .hblank => b.endLine
  | some .vblank => b.endFrame

/-- One step of the frame. -/
def advanceVideo (b : Bus) : Bus :=
  let (r, event) := (b.video.withRequests b.requests).advance
  onEvent { b with video := r.video, requests := r.requests } event

theorem copyToVram_nextCycles (n : Nat) (b : Bus) (source target : UInt16) :
    (b.copyToVram source target n).video.nextCycles = b.video.nextCycles := by
  induction n generalizing b source target with
  | zero => rfl
  | succ n ih =>
    unfold copyToVram
    rw [ih]
    rfl

theorem updateTransfer_nextCycles (b : Bus) (f : BlockTransfer → BlockTransfer) :
    (b.updateTransfer f).video.nextCycles = b.video.nextCycles := rfl

theorem chargeBlocks_nextCycles (b : Bus) (n : Nat) :
    (b.chargeBlocks n).video.nextCycles = b.video.nextCycles := rfl

theorem transferBlock_nextCycles (b : Bus) :
    b.transferBlock.video.nextCycles = b.video.nextCycles := by
  unfold transferBlock
  rw [updateTransfer_nextCycles, chargeBlocks_nextCycles, copyToVram_nextCycles]

theorem countHblank_nextCycles (b : Bus) :
    b.countHblank.video.nextCycles = b.video.nextCycles := rfl

theorem endLine_nextCycles (b : Bus) : b.endLine.video.nextCycles = b.video.nextCycles := by
  unfold endLine
  rw [countHblank_nextCycles]
  split
  · exact transferBlock_nextCycles b
  · rfl

theorem onEvent_nextCycles (b : Bus) (event : Option Video.Event) :
    (b.onEvent event).video.nextCycles = b.video.nextCycles := by
  unfold onEvent
  split
  · rfl
  · exact endLine_nextCycles b
  · rfl

/-- A due step of the frame moves the next one at least four cycles away. -/
theorem advanceVideo_nextCycles (b : Bus) (h : b.video.pending = true) :
    b.video.nextCycles + 4 ≤ b.advanceVideo.video.nextCycles := by
  unfold advanceVideo
  rw [onEvent_nextCycles]
  exact Video.Run.advance_nextCycles (b.video.withRequests b.requests) h

/-- Makes every step of the frame that is due. -/
def settle (b : Bus) : Bus :=
  if _ : b.video.pending = true then settle b.advanceVideo else b
termination_by (1 - b.video.nextCycles).toNat
decreasing_by
  have due : b.video.pending = true := by assumption
  have h1 := advanceVideo_nextCycles b due
  have h2 := Video.nextCycles_of_pending due
  omega

/-- The base-clock cycles in a number of processor cycles. -/
def baseCycles (b : Bus) (cycles : Nat) : Nat :=
  if b.doubleSpeed then cycles / 2 else cycles

/-- Processor cycles pass for the timer. -/
def stepTimer (b : Bus) (cycles : Nat) : Bus :=
  b.afterTimer ((b.timer.withRequests b.requests).step b.doubleSpeed cycles)

/-- Base-clock cycles pass for sound and picture. -/
def stepDevices (b : Bus) (cycles : Nat) : Bus :=
  settle { b with sound := b.sound.step cycles, video := b.video.tick cycles }

/-- Processor cycles pass. -/
def step (b : Bus) (cycles : Nat) : Bus :=
  let base := b.baseCycles cycles
  (b.stepTimer cycles).stepDevices base

end Bus

end DotMatrix
