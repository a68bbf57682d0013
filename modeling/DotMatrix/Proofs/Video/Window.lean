import DotMatrix.Proofs.Video.Course
import DotMatrix.Proofs.Word

/-!
# The window's line counter

The window has a line counter of its own, which moves on with every line that shows the window,
drawn or not, and starts again at the top of a frame. The registers that decide may change between
any two lines; what counts is how they stand when the drawing of a line ends.

Results:
* `windowCounts_iff`: the lines that show the window.
* `renderLine_windowLine`: a line moves the counter on if it shows the window.
* **`Run.advance_windowLine`**: what a step of the frame does to the counter.
-/

namespace DotMatrix

namespace Video

/-- The background is enabled, and with it the window: on colour models always, and else by bit 0 of
LCDC. -/
def BackgroundEnabled (v : Video) : Prop :=
  v.model = .gbc ∨ v.lcdc.toNat.testBit 0 = true

instance : DecidablePred BackgroundEnabled := fun v =>
  inferInstanceAs (Decidable (v.model = .gbc ∨ v.lcdc.toNat.testBit 0 = true))

/-- The line shows the window: the background is enabled, the window is switched on, its corner is
neither past the right edge nor below the picture, and the line has reached it. -/
def ShowsWindow (v : Video) : Prop :=
  v.BackgroundEnabled ∧ v.lcdc.toNat.testBit 5 = true ∧
    v.wx.toNat ≤ 166 ∧ v.wy.toNat ≤ 143 ∧ v.wy.toNat ≤ v.ly.toNat

instance : DecidablePred ShowsWindow := fun v =>
  inferInstanceAs (Decidable (v.BackgroundEnabled ∧ v.lcdc.toNat.testBit 5 = true ∧
    v.wx.toNat ≤ 166 ∧ v.wy.toNat ≤ 143 ∧ v.wy.toNat ≤ v.ly.toNat))

theorem isColour_iff (v : Video) : v.isColour = true ↔ v.model = .gbc := by
  unfold isColour
  cases v.model <;> decide

theorem backgroundOn_iff (v : Video) : v.backgroundOn = true ↔ v.BackgroundEnabled := by
  rw [backgroundOn, Bool.or_eq_true, isColour_iff, hasBit_bit (i := 0) rfl]
  rfl

theorem windowCounts_iff (v : Video) : v.windowCounts = true ↔ v.ShowsWindow := by
  rw [windowCounts, windowVisible, Bool.and_eq_true, backgroundOn_iff, hasBit_bit (i := 5) rfl]
  simp only [Bool.and_eq_true, decide_eq_true_eq, UInt8.le_iff_toNat_le, and_assoc]
  rfl

/-- Resolving colours changes the resolved colours and the calls of the tint. -/
theorem refreshColours_eq (v : Video) :
    ∃ cache tint, v.refreshColours = { v with cache := cache, tint := tint } := by
  unfold refreshColours
  split
  · exact ⟨_, _, rfl⟩
  · exact ⟨_, _, rfl⟩

theorem countWindow_screen (v : Video) : v.countWindow.screen = v.screen := by
  unfold countWindow
  split <;> rfl

/-- A visible line is drawn into the picture, in the colours as they are resolved. -/
theorem renderLine_screen {v : Video} (drawn : (v.screen.isSome && v.ly < 144) = true) :
    v.renderLine.screen =
      v.screen.map fun p => p.putRow v.ly.toNat v.refreshColours.lineColours := by
  obtain ⟨cache, tint, refreshed⟩ := refreshColours_eq v
  unfold renderLine
  rw [if_pos drawn, countWindow_screen]
  unfold paintLine
  rw [refreshed]

theorem countWindow_windowLine (v : Video) :
    v.countWindow.windowLine = if v.ShowsWindow then v.windowLine + 1 else v.windowLine := by
  unfold countWindow
  simp only [windowCounts_iff]
  split <;> rfl

/-- A line moves the counter on if it shows the window, whether it is drawn or not. -/
theorem renderLine_windowLine (v : Video) :
    v.renderLine.windowLine = if v.ShowsWindow then v.windowLine + 1 else v.windowLine := by
  unfold renderLine
  split
  · obtain ⟨cache, tint, refreshed⟩ := refreshColours_eq v
    rw [countWindow_windowLine, refreshed]
    rfl
  · exact countWindow_windowLine v

/-- A step of the frame that does not end the drawing of a line leaves the counter as it is, unless
the line wraps from 153 to 0. -/
theorem Course.turn_windowLine {c c' : Course} {event : Option Event} (t : Turn c c' event)
    (other : event ≠ some .hblank) :
    c'.windowLine = if c.ly = 153 ∧ c'.ly = 0 then 0 else c.windowLine := by
  have moves : c.ly = 153 → c.countLine.ly ≠ 0 := by
    intro last
    change c.ly + 1 ≠ 0
    rw [last]
    decide
  cases t with
  | hblank => exact absurd rfl other
  | draw =>
    refine (if_neg ?_).symm
    rintro ⟨last, top⟩
    exact absurd (last.symm.trans top) (by decide)
  | scan | vblank | blank | last =>
    refine (if_neg ?_).symm
    rintro ⟨last, top⟩
    exact moves last top
  | wrap mode line =>
    have last : c.ly = 153 := by grind
    exact (if_pos ⟨last, rfl⟩).symm
  | top mode line =>
    refine (if_neg ?_).symm
    rintro ⟨last, -⟩
    exact absurd (last.symm.trans line) (by decide)

namespace Run

/-- The line wraps from 153 to 0 with a step of the frame. -/
def Wraps (r : Run) : Prop :=
  r.video.ly = 153 ∧ r.advance.1.video.ly = 0

instance : DecidablePred Wraps := fun r =>
  inferInstanceAs (Decidable (r.video.ly = 153 ∧ r.advance.1.video.ly = 0))

/-- The only step of the frame that ends a line is the end of its drawing. -/
theorem turn_hblank {r : Run} (ends : r.turn.2 = some .hblank) :
    r.turn.1 = r.update enterHblank := by
  revert ends
  unfold turn
  split
  · unfold nextLine beginLine
    split
    · intro ends
      cases ends
    · intro ends
      cases ends
  split
  · split <;> exact fun ends => nomatch ends
  split
  · exact fun ends => nomatch ends
  · exact fun _ => rfl

/-- **What a step of the frame does to the counter**: the end of a drawing moves it on if the line
shows the window, the wrap of the line puts it back to 0, and nothing else touches it. -/
theorem advance_windowLine {r : Run} (due : r.video.pending = true) :
    r.advance.1.video.windowLine =
      if r.advance.2 = some .hblank then
        if r.video.ShowsWindow then r.video.windowLine + 1 else r.video.windowLine
      else if r.Wraps then 0 else r.video.windowLine := by
  obtain ⟨c, turn, after⟩ := advance_turns due
  by_cases ends : r.advance.2 = some .hblank
  · have event : r.advance.2 = r.turn.2 := by
      unfold advance
      rw [if_pos due]
    have drawn : r.advance.1 = (r.update enterHblank).updateStat := by
      rw [← turn_hblank (event ▸ ends)]
      unfold advance
      rw [if_pos due]
    rw [if_pos ends, drawn]
    exact renderLine_windowLine (r.video.enter hblankMode 204)
  · have counter : r.advance.1.video.windowLine = c.windowLine := congrArg Course.windowLine after
    have line : r.advance.1.video.ly = c.ly := congrArg Course.ly after
    rw [if_neg ends, counter, Course.turn_windowLine turn ends]
    simp only [Wraps, line]
    rfl

end Run

end Video

end DotMatrix
