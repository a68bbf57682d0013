import DotMatrix.Proofs.Video.Tile
import DotMatrix.Proofs.Video.Window
import DotMatrix.Video.Line

/-!
# What lies behind the objects

At every column of a line there is a pixel of the window, a pixel of the background, or nothing.
This is all that objects know of it, and what is seen where there is none of them.

Results:
* **`backgroundDot_eq`**: the line without objects shows the backdrop.
* `backdrop_readsWithin`: it is taken from within video memory.
-/

namespace DotMatrix

namespace Video

/-- The pixel of the window at column `x` of the line: the window has a row counter of its own, and
its corner stands seven columns to the left of WX. -/
def windowCell (v : Video) (x : Nat) : TilePixel :=
  v.plane (mapBase (v.lcdc.toNat.testBit 6)) (x + 7 - v.wx.toNat) v.windowLine.toNat

/-- The pixel of the background at column `x` of the line: the background is a torus. -/
def backgroundCell (v : Video) (x : Nat) : TilePixel :=
  v.plane (mapBase (v.lcdc.toNat.testBit 3)) ((x + v.scx.toNat) % 256)
    ((v.ly.toNat + v.scy.toNat) % 256)

/-- What lies behind the objects at column `x` of the line. -/
def backdrop (v : Video) (x : Nat) : Option TilePixel :=
  if v.ShowsWindow ∧ v.layers.win = true ∧ v.wx.toNat ≤ x + 7 then some (v.windowCell x)
  else if v.BackgroundEnabled ∧ v.layers.bg = true then some (v.backgroundCell x)
  else none

/-- The host colour of the backdrop: that of its pixel, or the colour of a blank line. -/
def backdropColour (v : Video) (x : Nat) : UInt32 :=
  (v.backdrop x).elim v.blankColour v.planeColour

/-- The places of video memory that a pixel of the window is taken from. -/
def windowReads (v : Video) (x : Nat) : List Nat :=
  v.planeReads (mapBase (v.lcdc.toNat.testBit 6)) (x + 7 - v.wx.toNat) v.windowLine.toNat

/-- The places of video memory that a pixel of the background is taken from. -/
def backgroundReads (v : Video) (x : Nat) : List Nat :=
  v.planeReads (mapBase (v.lcdc.toNat.testBit 3)) ((x + v.scx.toNat) % 256)
    ((v.ly.toNat + v.scy.toNat) % 256)

/-- The places of video memory that the backdrop is taken from, be it background or window. -/
def backdropReads (v : Video) (x : Nat) : List Nat :=
  v.backgroundReads x ++ v.windowReads x

/-- Resolving colours leaves what lies behind the objects. -/
theorem refreshColours_backdrop (v : Video) (x : Nat) :
    v.refreshColours.backdrop x = v.backdrop x := by
  obtain ⟨cache, tint, refreshed⟩ := refreshColours_eq v
  rw [refreshed]
  rfl

/-- **The line without objects shows the backdrop.** -/
theorem backgroundDot_eq (v : Video) (x : Nat) :
    v.backgroundDot x =
      { colour := v.backdropColour x
        backgroundZero := (v.backdrop x).all fun p => p.colour == 0
        backgroundFirst := (v.backdrop x).any TilePixel.priority
        taken := false } := by
  have shown : (v.windowCounts && v.layers.win && decide (v.wx.toNat ≤ x + 7)) = true ↔
      v.ShowsWindow ∧ v.layers.win = true ∧ v.wx.toNat ≤ x + 7 := by
    rw [Bool.and_eq_true, Bool.and_eq_true, windowCounts_iff, decide_eq_true_iff, and_assoc]
  have enabled : (v.backgroundOn && v.layers.bg) = true ↔
      v.BackgroundEnabled ∧ v.layers.bg = true := by
    rw [Bool.and_eq_true, backgroundOn_iff]
  have window : v.windowPixel x = v.windowCell x := by
    rw [windowPixel, planePixel_eq, hasBit_bit (i := 6) rfl]
    rfl
  have background : v.backgroundPixel x = v.backgroundCell x := by
    rw [backgroundPixel, planePixel_eq, hasBit_bit (i := 3) rfl]
    rfl
  unfold backgroundDot backdropColour backdrop
  simp only [shown, enabled, window, background]
  split
  · rfl
  · split <;> rfl

theorem windowCell_readsWithin (v : Video) {x : Nat} (column : x < 160) :
    v.ReadsWithin (v.windowReads x) (·.windowCell x) := by
  have within := v.plane_readsWithin (v.lcdc.toNat.testBit 6)
    (show x + 7 - v.wx.toNat < 256 by omega) v.windowLine.toNat_lt
  exact ⟨within.inside, within.only⟩

theorem backgroundCell_readsWithin (v : Video) (x : Nat) :
    v.ReadsWithin (v.backgroundReads x) (·.backgroundCell x) := by
  have within := v.plane_readsWithin (v.lcdc.toNat.testBit 3)
    (Nat.mod_lt (x + v.scx.toNat) (by decide : 0 < 256))
    (Nat.mod_lt (v.ly.toNat + v.scy.toNat) (by decide : 0 < 256))
  exact ⟨within.inside, within.only⟩

/-- What lies behind the objects is taken from within video memory. -/
theorem backdrop_readsWithin (v : Video) {x : Nat} (column : x < 160) :
    v.ReadsWithin (v.backdropReads x) (·.backdrop x) := by
  have background := v.backgroundCell_readsWithin x
  have window := v.windowCell_readsWithin column
  constructor
  · intro place read
    rcases List.mem_append.mp read with read | read
    · exact background.inside place read
    · exact window.inside place read
  · intro vram same
    have behind := background.only vram fun place read => same place (List.mem_append_left _ read)
    have before := window.only vram fun place read => same place (List.mem_append_right _ read)
    unfold backdrop
    rw [behind, before]
    rfl

end Video

end DotMatrix
