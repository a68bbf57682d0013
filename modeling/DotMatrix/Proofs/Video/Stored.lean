import DotMatrix.Proofs.Snapshot.Scope
import DotMatrix.Video.Registers

/-!
# The picture unit without a viewer

Neither the picture, nor the tint, nor the resolved colours, nor the shades and the layers have an
effect on the picture unit itself: within any scope, every operation does to what counts of the unit
what it does to the whole. A unit without a picture resolves no colours, so that all of them stay
out of date.

Results:
* `renderLine_within`: a line is counted for the window whether it is drawn or not.
* `Run.write_within`: the registers.
* `tick_within`, `Run.advance_within`: time.
-/

namespace DotMatrix

namespace Video

variable (scope : Scope)

/-! ## Drawing -/

theorem countWindow_within (v : Video) :
    v.countWindow.within scope = (v.within scope).countWindow := by
  rw [countWindow, apply_ite (within scope)]
  rfl

theorem refreshColours_within (v : Video) : v.refreshColours.within scope = v.within scope := by
  rw [refreshColours, apply_ite (within scope)]
  exact ite_self _

theorem paintLine_within (v : Video) : v.paintLine.within scope = v.within scope := rfl

/-- Without a picture nothing is drawn. -/
theorem within_renderLine (v : Video) :
    (v.within scope).renderLine = (v.within scope).countWindow := rfl

/-- A line is counted for the window whether it is drawn or not. -/
theorem renderLine_within (v : Video) :
    v.renderLine.within scope = (v.within scope).renderLine := by
  rw [within_renderLine, renderLine, apply_ite (within scope), countWindow_within,
    countWindow_within, paintLine_within, refreshColours_within]
  exact ite_self _

/-! ## The course of a frame -/

/-- Time. -/
theorem tick_within (v : Video) (cycles : Nat) :
    (v.tick cycles).within scope = (v.within scope).tick cycles := by
  rw [tick, apply_ite (within scope)]
  rfl

theorem enterHblank_within (v : Video) :
    v.enterHblank.within scope = (v.within scope).enterHblank :=
  renderLine_within scope _

theorem compareLine_within (v : Video) :
    v.compareLine.within scope = (v.within scope).compareLine := rfl

theorem nextBlankLine_within (v : Video) :
    v.nextBlankLine.within scope = (v.within scope).nextBlankLine := by
  simp only [nextBlankLine, compareLine_within, apply_ite (within scope)]
  rfl

namespace Run

/-- The unit in use, without its viewer. -/
def within (r : Run) : Run :=
  { r with video := r.video.within scope }

theorem nextLine_within (r : Run) :
    (r.within scope).nextLine = (r.nextLine.1.within scope, r.nextLine.2) := by
  unfold nextLine beginLine
  change (if (r.update countLine).video.ly == 144 then _ else _ : Run × Option Event) = _
  split <;> rfl

theorem turn_within (r : Run) :
    (r.within scope).turn = (r.turn.1.within scope, r.turn.2) := by
  have blank := nextBlankLine_within scope r.video
  have line := enterHblank_within scope r.video
  unfold turn
  change (if r.video.mode == hblankMode then _ else if r.video.mode == vblankMode then
    if r.video.ly == 0 then _ else _ else if r.video.mode == scanMode then _ else _) = _
  split
  · exact nextLine_within scope r
  split
  · split
    · rfl
    · simp only [within, update, blank]
  split
  · rfl
  · simp only [within, update, line]

theorem updateStat_within (r : Run) :
    (r.within scope).updateStat = r.updateStat.within scope := rfl

/-- One step of the frame. -/
theorem advance_within (r : Run) :
    (r.within scope).advance = (r.advance.1.within scope, r.advance.2) := by
  unfold advance
  change (if r.video.pending then _ else _ : Run × Option Event) = _
  split
  · simp only [turn_within, updateStat_within]
  · rfl

/-! ## Registers -/

theorem writeLcdc_within (r : Run) (val : UInt8) :
    (r.within scope).writeLcdc val = (r.writeLcdc val).within scope := by
  simp only [writeLcdc, apply_ite (within scope)]
  rfl

end Run

theorem writeColourReg_within (v : Video) (addr : UInt16) (val : UInt8) :
    (v.writeColourReg addr val).within scope = (v.within scope).writeColourReg addr val := by
  unfold writeColourReg
  split <;> rfl

/-- A write. -/
theorem Run.write_within (r : Run) (addr : UInt16) (val : UInt8) :
    (r.within scope).write addr val = (r.write addr val).within scope := by
  unfold write
  split
  · exact writeLcdc_within scope r val
  all_goals try rfl
  simp only [update, within, apply_ite (Video.within scope), writeColourReg_within]
  rfl

/-! ## Memories -/

theorem spoilOam_within (v : Video) :
    v.spoilOam.within scope = (v.within scope).spoilOam := by
  rw [spoilOam, apply_ite (within scope)]
  rfl

end Video

end DotMatrix
