import DotMatrix.Proofs.Bus.Course
import DotMatrix.Proofs.Interrupt

/-!
# Interrupt requests on the bus

The timer, the picture unit, the link port and the joypad all feed one request byte. Whatever happens
to them, requests are added to it and none is lost. Only a write to its own address changes the byte
in another way, and it keeps the upper three bits clear.

Results:
* `Timer.Run.step_added`, `Video.Run.advance_added`, ...: the devices.
* **`step_added`**, **`write_added`**, **`setButtons_added`**: time, writes and buttons.
* `write_requests`: a write to the request byte.
-/

namespace DotMatrix

open Interrupt (Added)

variable {q : UInt8}

/-! ## The devices -/

namespace Timer.Run

variable {r : Run}

theorem count_added (h : Added q r.requests) : Added q r.count.requests := by
  unfold count
  split
  · exact h.raise .timer
  · exact h

theorem tick_added (h : Added q r.requests) (doubleSpeed : Bool) :
    Added q (r.tick doubleSpeed).requests := by
  simp only [tick]
  split
  · exact count_added h
  · exact h

theorem step_added (h : Added q r.requests) (doubleSpeed : Bool) (cycles : Nat) :
    Added q (step doubleSpeed cycles r).requests := by
  induction cycles generalizing r with
  | zero => exact h
  | succ n ih => exact ih (tick_added h doubleSpeed)

theorem resetDiv_added (h : Added q r.requests) (doubleSpeed : Bool) :
    Added q (r.resetDiv doubleSpeed).requests := by
  simp only [resetDiv]
  split
  · exact count_added h
  · exact h

theorem writeControl_added (h : Added q r.requests) (val : UInt8) :
    Added q (r.writeControl val).requests := by
  simp only [writeControl]
  split
  · exact count_added h
  · exact h

theorem write_added (h : Added q r.requests) (doubleSpeed : Bool) (addr : UInt16) (val : UInt8) :
    Added q (r.write doubleSpeed addr val).requests := by
  unfold write
  split
  · exact resetDiv_added h doubleSpeed
  · exact h
  · exact h
  · exact writeControl_added h val
  · exact h

end Timer.Run

theorem Link.requestsAfter_added (addr : UInt16) (val requests : UInt8) :
    Added requests (requestsAfter addr val requests) := by
  unfold requestsAfter
  split
  · exact (Added.refl requests).raise .serial
  · exact .refl requests

theorem Joypad.requestsAfter_added (before after : Joypad) (requests : UInt8) :
    Added requests (requestsAfter before after requests) := by
  unfold requestsAfter
  split
  · exact (Added.refl requests).raise .joypad
  · exact .refl requests

namespace Video.Run

variable {r : Run}

theorem updateStat_added (h : Added q r.requests) : Added q r.updateStat.requests := by
  simp only [updateStat]
  split
  · exact h.raise .stat
  · exact h

theorem turn_added (h : Added q r.requests) : Added q r.turn.1.requests := by
  unfold turn
  split
  · unfold nextLine beginLine
    split
    · exact h.raise .vblank
    · exact h
  split
  · split <;> exact h
  · split <;> exact h

theorem advance_added (h : Added q r.requests) : Added q r.advance.1.requests := by
  simp only [advance]
  split
  · exact updateStat_added (turn_added h)
  · exact h

theorem writeLcdc_added (h : Added q r.requests) (val : UInt8) :
    Added q (r.writeLcdc val).requests := by
  simp only [writeLcdc]
  split
  · exact h
  split
  · exact updateStat_added h
  · exact h

theorem write_added (h : Added q r.requests) (addr : UInt16) (val : UInt8) :
    Added q (r.write addr val).requests := by
  unfold write
  split
  case h_1 => exact writeLcdc_added h val
  case h_2 => exact updateStat_added h
  case h_6 => exact updateStat_added h
  all_goals exact h

end Video.Run

namespace Bus

variable {b : Bus}

/-! ## Time -/

theorem advanceVideo_added (h : Added q b.requests) : Added q b.advanceVideo.requests := by
  have after : b.advanceVideo.requests = b.run.advance.1.requests :=
    congrArg Prod.snd (advanceVideo_pace b)
  rw [after]
  exact Video.Run.advance_added (r := b.run) h

theorem settle_added (h : Added q b.requests) : Added q b.settle.requests := by
  fun_induction settle b with
  | case1 b due ih => exact ih (advanceVideo_added h)
  | case2 b idle => exact h

theorem afterTimer_added {r : Timer.Run} (h : Added q r.requests) (b : Bus) :
    Added q (b.afterTimer r).requests := by
  rw [afterTimer_eq]
  exact h

theorem stepTimer_added (b : Bus) (cycles : Nat) :
    Added b.requests (b.stepTimer cycles).requests :=
  afterTimer_added (Timer.Run.step_added (r := b.timer.withRequests b.requests) (.refl _) _ _) _

/-- **Time** loses no request. -/
theorem step_added (b : Bus) (cycles : Nat) : Added b.requests (b.step cycles).requests :=
  settle_added (stepTimer_added b cycles)

theorem switchSpeed_added (b : Bus) : Added b.requests b.switchSpeed.requests :=
  afterTimer_added (Timer.Run.resetDiv_added (r := b.timer.withRequests b.requests) (.refl _) _) _

/-- **Buttons** lose no request. -/
theorem setButtons_added (b : Bus) (mask : UInt8) (down : Bool) :
    Added b.requests (b.setButtons mask down).requests :=
  Joypad.requestsAfter_added _ _ _

/-! ## Writes -/

theorem added_of_pace {b' : Bus} (h : b'.pace = b.pace) :
    Added b.requests b'.requests := by
  have same : b'.requests = b.requests := congrArg Prod.snd h
  rw [same]
  exact .refl _

theorem Wrote.added {b' : Bus} {addr : UInt16} {val : UInt8} (h : b.Wrote addr val b')
    (other : addr ≠ 0xFF0F) : Added b.requests b'.requests := by
  cases h with
  | nothing | vram | cartRam | wram | oam | hram | enables | joypad | sound | speed
  | undocumented => exact .refl _
  | control | workBank => exact added_of_pace (remap_pace _)
  | objects => exact added_of_pace (fillObjects_pace b val)
  | link => exact Link.requestsAfter_added addr val b.requests
  | timer =>
    exact afterTimer_added
      (Timer.Run.write_added (r := b.timer.withRequests b.requests) (.refl _) _ addr val) b
  | requests here => exact absurd here other
  | picture | screenOff => exact Video.Run.write_added (r := b.run) (.refl _) addr val
  | videoBank =>
    rw [remap]
    exact Video.Run.write_added (r := b.run) (.refl _) addr val
  | transfer => exact added_of_pace (writeTransfer_pace b val)

/-- **A write** loses no request, unless it is to the request byte. -/
theorem write_added (b : Bus) {addr : UInt16} (other : addr ≠ 0xFF0F) (val : UInt8) :
    Added b.requests (b.write addr val).requests :=
  (write_wrote b addr val).added other

theorem write_requests (b : Bus) (val : UInt8) : (b.write 0xFF0F val).requests = val &&& 0x1F := by
  simp [write, writeIo]

end Bus

end DotMatrix
