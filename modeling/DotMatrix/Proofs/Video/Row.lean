import DotMatrix.Proofs.Video.Objects

/-!
# A row of the picture

What stands in the host's picture when a line has been drawn, pixel by pixel. Objects go before what
is behind them by the rules of priority; the pixels are those of tiles and maps.

Results:
* `putFrom_getElem?`: a row is stored pixel by pixel, also where it runs on into the next.
* `renderLine_pixel`: a line that is drawn stands in the picture in its colours.
* **`renderLine_backdrop`**: a pixel without an object is one of the window, of the background, or
  blank.
* **`renderLine_objects`**: a pixel with objects is that of the first of them in priority.
-/

namespace DotMatrix

namespace PixelBuffer

/-- In a picture that is wide enough, the pixels of all lines have their places. -/
theorem blank_inside {stride x y : Nat} (size : Nat) (column : x < stride)
    (row : y < screenHeight) :
    y * stride + x < (blank stride size).cells.size := by
  unfold blank
  rw [Array.size_replicate, Nat.mul_comm stride]
  calc y * stride + x < (y + 1) * stride := by
        rw [Nat.succ_mul]
        exact Nat.add_lt_add_left column _
    _ ≤ screenHeight * stride := Nat.mul_le_mul_right stride row

/-- What is to the left of a row, and above it, is left alone. -/
theorem putFrom_left {p : PixelBuffer} {y x i : Nat} (colours : List UInt32)
    (left : i < y * p.stride + x) : (p.putFrom y x colours).cells[i]? = p.cells[i]? := by
  induction colours generalizing p x with
  | nil => rfl
  | cons c colours ih =>
    have same : (p.put x y c).stride = p.stride := rfl
    rw [putFrom, ih (by rw [same]; omega)]
    exact Array.getElem?_setIfInBounds_ne (by omega)

/-- A row is stored pixel by pixel. -/
theorem putFrom_getElem? {p : PixelBuffer} {y x k : Nat} {colours : List UInt32} {c : UInt32}
    (colour : colours[k]? = some c) (inside : y * p.stride + x + k < p.cells.size) :
    (p.putFrom y x colours).cells[y * p.stride + x + k]? = some (clip p.bytesPerPixel c) := by
  induction colours generalizing p x k with
  | nil => cases colour
  | cons first colours ih =>
    cases k with
    | zero =>
      obtain rfl : first = c := Option.some.inj colour
      have left := putFrom_left (p := p.put x y first) (y := y) (x := x + 1) colours
        (Nat.lt_succ_self (y * p.stride + x))
      rw [putFrom, Nat.add_zero]
      exact left.trans (Array.getElem?_setIfInBounds_self_of_lt inside)
    | succ k =>
      have next : y * p.stride + x + (k + 1) = y * (p.put x y first).stride + (x + 1) + k := by
        change _ = y * p.stride + (x + 1) + k
        omega
      have size : (p.put x y first).cells.size = p.cells.size := Array.size_setIfInBounds
      rw [next] at inside ⊢
      exact ih colour (size.symm ▸ inside)

theorem putFrom_stride (p : PixelBuffer) (y x : Nat) (colours : List UInt32) :
    (p.putFrom y x colours).stride = p.stride := by
  induction colours generalizing p x with
  | nil => rfl
  | cons c colours ih => exact ih (p.put x y c) (x + 1)

theorem putRow_pixel {p : PixelBuffer} {y x : Nat} {colours : Array UInt32} {c : UInt32}
    (colour : colours[x]? = some c) (inside : y * p.stride + x < p.cells.size) :
    (p.putRow y colours).pixel x y = clip p.bytesPerPixel c := by
  have stored := putFrom_getElem? (p := p) (y := y) (x := 0) (k := x)
    (show colours.toList[x]? = some c by rw [Array.getElem?_toList, colour]) inside
  unfold pixel putRow
  rw [putFrom_stride, Array.getD_eq_getD_getElem?]
  exact congrArg (·.getD 0) stored

end PixelBuffer

namespace Video

variable {v : Video} {p : PixelBuffer} {x : Nat} {c : UInt32}

/-! ## Resolving colours -/

/-- Resolving colours has no part in which objects show. -/
theorem refreshColours_shows (v : Video) (i x : Nat) :
    v.refreshColours.Shows i x ↔ v.Shows i x := by
  obtain ⟨cache, tint, refreshed⟩ := refreshColours_eq v
  rw [refreshed]
  constructor
  · rintro ⟨selected, column, seen, before⟩
    exact ⟨selected, column, seen, before⟩
  · rintro ⟨selected, column, seen, before⟩
    exact ⟨selected, column, seen, before⟩

theorem refreshColours_before (v : Video) (i j : Nat) :
    v.refreshColours.Before i j ↔ v.Before i j := by
  obtain ⟨cache, tint, refreshed⟩ := refreshColours_eq v
  rw [refreshed]
  rfl

theorem refreshColours_wins (v : Video) (i x : Nat) : v.refreshColours.Wins i x ↔ v.Wins i x := by
  constructor
  · rintro ⟨shows, first⟩
    refine ⟨(refreshColours_shows v i x).mp shows, fun j other ne => ?_⟩
    exact (refreshColours_before v i j).mp (first j ((refreshColours_shows v j x).mpr other) ne)
  · rintro ⟨shows, first⟩
    refine ⟨(refreshColours_shows v i x).mpr shows, fun j other ne => ?_⟩
    exact (refreshColours_before v i j).mpr (first j ((refreshColours_shows v j x).mp other) ne)

/-- The host colour that a column of the line shows, with the resolved colours up to date. -/
theorem refreshColours_lineColours (v : Video) (column : x < 160) :
    (v.ObjectsEnabled ∧ ∃ i, v.Wins i x ∧ v.refreshColours.lineColours[x]? =
        some (v.refreshColours.objectHostColour (v.objectAt i) (v.objectPixel i x).toUInt8)) ∨
      ((v.ObjectsEnabled → ∀ i, ¬ v.Shows i x) ∧ v.refreshColours.lineColours[x]? =
        some ((v.backdrop x).elim v.refreshColours.blankColour v.refreshColours.planeColour)) := by
  obtain ⟨cache, tint, refreshed⟩ := refreshColours_eq v
  have enabled : v.refreshColours.ObjectsEnabled ↔ v.ObjectsEnabled := by
    rw [refreshed]
    rfl
  have object (i : Nat) : v.refreshColours.objectAt i = v.objectAt i := by
    rw [refreshed]
    rfl
  have pixel (i : Nat) : v.refreshColours.objectPixel i x = v.objectPixel i x := by
    rw [refreshed]
    rfl
  have shown := lineColours_getElem? (v := v.refreshColours) column
  simp only [enabled, refreshColours_wins, refreshColours_shows, object, pixel, backdropColour,
    refreshColours_backdrop] at shown
  exact shown

/-! ## The picture -/

/-- A line that is drawn stands in the picture in its colours. -/
theorem renderLine_pixel (attached : v.screen = some p) (visible : v.ly.toNat < 144)
    (colour : v.refreshColours.lineColours[x]? = some c) :
    ∃ q, v.renderLine.screen = some q ∧
      (v.ly.toNat * p.stride + x < p.cells.size →
        q.pixel x v.ly.toNat = PixelBuffer.clip p.bytesPerPixel c) := by
  have drawn : (v.screen.isSome && v.ly < 144) = true := by
    rw [attached]
    exact decide_eq_true (UInt8.lt_iff_toNat_lt.mpr visible)
  refine ⟨p.putRow v.ly.toNat v.refreshColours.lineColours, ?_, ?_⟩
  · rw [renderLine_screen drawn, attached]
    rfl
  · exact PixelBuffer.putRow_pixel colour

/-- A picture unit at the top of a frame, with a picture attached and video memory full of ones. -/
def filled (lcdc : UInt8) : Video :=
  { boot (unpowered .dmg) with
    vram := Array.replicate vramSize 0xFF
    lcdc := lcdc
    screen := some (.blank 160 4) }

theorem vramAt_filled (full : v.vram = Array.replicate vramSize 0xFF) (i : Nat) :
    v.vramAt i = 0xFF := by
  rw [vramAt, full, Array.getD_eq_getD_getElem?, Array.getElem?_replicate]
  split <;> rfl

/-- The pixel of a line that is drawn, at a column where no object shows: a pixel of the window
where the line shows it, else a pixel of the background, else the colour of a blank line. It is read
from within video memory, whatever the registers and the memory hold. -/
theorem renderLine_backdrop (attached : v.screen = some p) (visible : v.ly.toNat < 144)
    (column : x < 160) (bare : v.ObjectsEnabled → ∀ i, ¬ v.Shows i x) :
    (∃ q, v.renderLine.screen = some q ∧
      (v.ly.toNat * p.stride + x < p.cells.size →
        q.pixel x v.ly.toNat = PixelBuffer.clip p.bytesPerPixel
          ((v.backdrop x).elim v.refreshColours.blankColour v.refreshColours.planeColour))) ∧
      v.ReadsWithin (v.backdropReads x) (·.backdrop x) := by
  refine ⟨?_, v.backdrop_readsWithin column⟩
  rcases refreshColours_lineColours v column with ⟨on, i, wins, -⟩ | ⟨-, colour⟩
  · exact absurd wins.shows (bare on i)
  · exact renderLine_pixel attached visible colour

/-- Without objects the first pixel is that of a tile of the background, in the darkest shade. -/
theorem renderLine_backdrop_dark :
    (∃ q, (filled 0x91).renderLine.screen = some q ∧ q.pixel 0 0 = 0xFF081821) ∧
      ∀ place ∈ (filled 0x91).backdropReads 0, place < vramSize := by
  have bare : (filled 0x91).ObjectsEnabled → ∀ i, ¬ (filled 0x91).Shows i 0 := by
    rintro ⟨on, -⟩
    exact absurd on (by decide)
  obtain ⟨⟨q, drawn, pixel⟩, reads⟩ :=
    renderLine_backdrop (v := filled 0x91) (x := 0) rfl (by decide) (by decide) bare
  have dark : (filled 0x91).backdrop 0 = some ⟨3, 0, false⟩ := by
    have off : ¬ (filled 0x91).ShowsWindow := by decide +kernel
    have on : (filled 0x91).BackgroundEnabled ∧ (filled 0x91).layers.bg = true := by decide +kernel
    have full := vramAt_filled (v := filled 0x91) rfl
    rw [backdrop, if_neg (fun h => off h.1), if_pos on, backgroundCell, plane, tilePixel, full,
      full]
    decide +kernel
  rw [dark] at pixel
  have inside := PixelBuffer.blank_inside (x := 0) (y := 0) 4 (by decide : 0 < 160) (by decide)
  exact ⟨⟨q, drawn, (pixel inside).trans (by decide +kernel)⟩, reads.inside⟩

/-- The pixel of a line that is drawn, with objects: where any show it is that of the first in
priority, and else what is behind. Object memory and video memory are read from within. -/
theorem renderLine_objects (attached : v.screen = some p) (visible : v.ly.toNat < 144)
    (column : x < 160) (on : v.ObjectsEnabled) :
    ((∃ i, v.Shows i x) → ∃ i, v.Wins i x) ∧
      (∃ q, v.renderLine.screen = some q ∧
        (v.ly.toNat * p.stride + x < p.cells.size →
          (∀ i, v.Wins i x → q.pixel x v.ly.toNat = PixelBuffer.clip p.bytesPerPixel
            (v.refreshColours.objectHostColour (v.objectAt i) (v.objectPixel i x).toUInt8)) ∧
          ((∀ i, ¬ v.Shows i x) → q.pixel x v.ly.toNat = PixelBuffer.clip p.bytesPerPixel
            ((v.backdrop x).elim v.refreshColours.blankColour v.refreshColours.planeColour)))) ∧
      (∀ i < objectCount, 4 * i + 3 < v.oam.size) ∧
      (∀ i, v.Selected i → v.ReadsWithin (v.objectReads i) (·.objectPixel i x)) ∧
      v.ReadsWithin (v.backdropReads x) (·.backdrop x) := by
  refine ⟨fun ⟨i, shows⟩ => shows.exists_wins, ?_, ?_, fun i selected =>
    objectPixel_readsWithin selected.2.1 x, v.backdrop_readsWithin column⟩
  · rcases refreshColours_lineColours v column with ⟨-, i, wins, colour⟩ | ⟨none, colour⟩
    · obtain ⟨q, drawn, pixel⟩ := renderLine_pixel attached visible colour
      refine ⟨q, drawn, fun inside => ⟨fun j first => ?_, fun none => absurd wins.shows (none i)⟩⟩
      rw [first.unique wins]
      exact pixel inside
    · obtain ⟨q, drawn, pixel⟩ := renderLine_pixel attached visible colour
      exact ⟨q, drawn, fun inside =>
        ⟨fun i wins => absurd wins.shows (none on i), fun _ => pixel inside⟩⟩
  · intro i below
    have count : i < 40 := below
    have size : v.oam.size = 0xA0 := rfl
    omega

/-- The same line with an object in the corner of the picture. -/
def corner : Video :=
  { ((filled 0x93).setOamAt 0 16).setOamAt 1 8 with obp0 := 0 }

/-- The object covers the first pixel, in the lightest shade. -/
theorem renderLine_objects_light :
    corner.Wins 0 0 ∧ ∃ q, corner.renderLine.screen = some q ∧ q.pixel 0 0 = 0xFFE7FFD6 := by
  have ones : corner.objectPixel 0 0 = 3 := by
    have full := vramAt_filled (v := corner) rfl
    rw [objectPixel, tilePixel, full, full]
    decide +kernel
  have selected : corner.Selected 0 := ⟨by decide, by decide +kernel, by decide⟩
  have shows : corner.Shows 0 0 := by
    refine ⟨selected, by decide +kernel, by rw [ones]; decide, ?_⟩
    rintro ⟨tile, -, -, -, behind | before⟩
    · exact absurd behind (by decide +kernel)
    · exact absurd before.1 (by decide)
  have alone : ∀ j < 40, corner.Covers j → j = 0 := by decide +kernel
  have wins : corner.Wins 0 0 :=
    ⟨shows, fun j other ne => absurd (alone j other.selected.1 other.selected.2.1) ne⟩
  obtain ⟨-, ⟨q, drawn, pixel⟩, -⟩ :=
    renderLine_objects (v := corner) (x := 0) rfl (by decide) (by decide) ⟨by decide, rfl⟩
  have inside := PixelBuffer.blank_inside (x := 0) (y := 0) 4 (by decide : 0 < 160) (by decide)
  refine ⟨wins, q, drawn, ((pixel inside).1 0 wins).trans ?_⟩
  rw [ones]
  decide +kernel

end Video

end DotMatrix
