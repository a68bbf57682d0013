import DotMatrix.Proofs.Bus.Status
import DotMatrix.Proofs.Console.Lasting

/-!
# The transfer in a console

Besides writes and time, much happens to the bus of a console that has no part in a block transfer:
interrupts are acknowledged, object memory is spoilt, buttons are pressed, and the processor takes
the cost of a transfer. So what is said of a tracked bus holds of the bus of every console that can
be reached.

Results:
* `tracked_invariant`, `known_lasting`: the processor and the host keep track.
* **`Reachable.tracked_bus`**: the bus of every console that can be reached is tracked.
-/

namespace DotMatrix

namespace Bus

/-- Whether FF55 has been written is known of the bus. -/
def Known (b : Bus) : Prop :=
  ∃ asked, b.Tracked asked

variable {b b' : Bus}

theorem Known.aside (h : b.Known) (standing : b'.standing = b.standing)
    (course : b'.video.course = b.video.course) : b'.Known :=
  h.imp fun _ tracked => tracked.aside standing course

theorem Known.write (h : b.Known) (addr : UInt16) (val : UInt8) : (b.write addr val).Known :=
  h.imp' _ fun _ tracked => tracked.write addr val

theorem known_reset (b : Bus) (model : Model) : (b.reset model).Known :=
  ⟨false, tracked_reset b model⟩

theorem Known.spoilOam (h : b.Known) : Known { b with video := b.video.spoilOam } := by
  have objects : ∃ oam, b.video.spoilOam = { b.video with oam := oam } := by
    unfold Video.spoilOam
    split
    · exact ⟨b.video.oam, rfl⟩
    · exact ⟨_, rfl⟩
  obtain ⟨oam, spoilt⟩ := objects
  rw [spoilt]
  exact h.aside rfl rfl

/-- Whatever the processor does to a bus, track is kept. -/
theorem tracked_invariant : Invariant Known where
  write h := h.write
  acknowledge h _ := h.aside rfl rfl
  spoilOam h := h.spoilOam
  switchSpeed h := h.imp fun _ tracked => tracked.switchSpeed
  report h _ := h.aside rfl rfl
  takeStall h := h.aside rfl rfl
  step h cycles := h.imp fun _ tracked => tracked.step cycles

/-- What is known lasts. -/
theorem known_lasting : Lasting Known where
  reset := known_reset
  aside {b b'} h same := by
    have standing : b'.board.standing = b.board.standing := congrArg _ same
    have course : b'.board.video.course = b.board.video.course :=
      congrArg (fun b : Bus => b.video.course) same
    exact h.aside standing course
  turn h := Core.turn_keeps tracked_invariant h
  setButtons h _ _ := h.aside rfl rfl
  write h := h.write
  restore h fits restored := h.imp fun _ tracked => tracked.restore fits restored

end Bus

/-- **The bus of every console that can be reached** is tracked. -/
theorem Console.Reachable.tracked_bus {c : Console} (h : c.Reachable) :
    ∃ asked, c.core.bus.Tracked asked :=
  h.lasting Bus.known_lasting

end DotMatrix
