import DotMatrix.Proofs.Bus.Lines
import DotMatrix.Proofs.Video.Window

/-!
# The rows of the window

The registers that place the window may be written between any two lines of a frame. So which row of
the window a line shows does not follow from the line; it is told by a counter, and the counter by
the history of the frame. `Drawn` goes along with a bus and keeps this history: the lines that have
been drawn since the frame began, each as the picture unit was when its drawing ended. A frame
begins at power-up, with the wrap of the line from 153 to 0, and whenever the screen goes on or off.

Results:
* `windowed_law`: power-up, time and writes keep the counter from running ahead of the line.
* `InRows.advance`, `InRows.settle`: one step of the frame, and all that are due.
* `Attained.drawn`: every bus that is attained has a history.
* **`rows_in_order`**: the counter is the number of the lines that have shown the window, and these
  have shown its rows in order, without a gap.
-/

namespace DotMatrix

namespace Video.Course

/-- How far the window's counter can have come: up to the present line while that is drawn, one
further when it has been drawn, and not beyond the visible lines. -/
def windowLimit (c : Course) : Nat :=
  if c.mode = vblankMode then if c.ly = 0 then 0 else 144
  else if c.mode = hblankMode then c.ly.toNat + 1
  else c.ly.toNat

/-- The number of the line is within that of its mode, and the window's counter is not ahead. -/
structure Windowed (c : Course) : Prop where
  numbered : c.Numbered
  window : c.windowLine.toNat ≤ c.windowLimit

variable {c c' : Course} {event : Option Event}

theorem windowLimit_top (mode : c.mode = vblankMode) (top : c.ly = 0) : c.windowLimit = 0 := by
  rw [windowLimit, if_pos mode, if_pos top]

theorem windowLimit_blank (mode : c.mode = vblankMode) (line : 144 ≤ c.ly.toNat) :
    c.windowLimit = 144 := by
  have stands : c.ly ≠ 0 := by
    intro top
    rw [top] at line
    exact absurd line (by decide)
  rw [windowLimit, if_pos mode, if_neg stands]

theorem windowLimit_hblank (mode : c.mode = hblankMode) : c.windowLimit = c.ly.toNat + 1 := by
  rw [windowLimit, if_neg (by rw [mode]; decide), if_pos mode]

theorem windowLimit_draw (mode : c.mode ≠ hblankMode ∧ c.mode ≠ vblankMode) :
    c.windowLimit = c.ly.toNat := by
  rw [windowLimit, if_neg mode.2, if_neg mode.1]

theorem Windowed.window_le (h : c.Windowed) : c.windowLine.toNat ≤ 144 := by
  refine Nat.le_trans h.window ?_
  by_cases blank : c.mode = vblankMode
  · unfold windowLimit
    rw [if_pos blank]
    split <;> decide
  · have line := h.numbered.visible blank
    unfold windowLimit
    rw [if_neg blank]
    split <;> omega

/-- Where the drawing of a line ends, the counter has room. -/
theorem Windowed.window_lt (h : c.Windowed) (t : Turn c c' (some .hblank)) :
    c.windowLine.toNat ≤ 143 := by
  cases t with
  | hblank counted mode =>
    have window := h.window
    rw [windowLimit_draw ⟨mode.1, mode.2.1⟩] at window
    exact Nat.le_trans window (h.numbered.visible mode.2.1)

theorem Windowed.turn (h : c.Windowed) (t : Turn c c' event) : c'.Windowed := by
  refine ⟨h.numbered.turn t, ?_⟩
  have window := h.window
  have next := countLine_toNat h.numbered.line_le
  have scans : scanMode ≠ hblankMode ∧ scanMode ≠ vblankMode := by decide
  have draws : drawMode ≠ hblankMode ∧ drawMode ≠ vblankMode := by decide
  -- Below the visible lines the limit stays, up to the wrap.
  have below (mode : c'.mode = vblankMode) (line : 144 ≤ c'.ly.toNat)
      (kept : c'.windowLine = c.windowLine) (window : c.windowLine.toNat ≤ 144) :
      c'.windowLine.toNat ≤ c'.windowLimit := by
    rw [windowLimit_blank mode line, kept]
    exact window
  cases t with
  | draw mode =>
    rw [windowLimit_draw (mode ▸ scans)] at window
    rw [windowLimit_draw draws]
    exact window
  | hblank counted mode counts =>
    rw [windowLimit_draw ⟨mode.1, mode.2.1⟩] at window
    have line := h.numbered.visible mode.2.1
    rw [windowLimit_hblank rfl]
    rcases counts with rfl | rfl
    · exact Nat.le_succ_of_le window
    · change (c.windowLine + 1).toNat ≤ _
      rw [toNat_add_one (by omega)]
      exact Nat.succ_le_succ window
  | scan mode =>
    rw [windowLimit_hblank mode, ← next] at window
    rw [windowLimit_draw scans]
    exact window
  | vblank mode ended =>
    have first : c.countLine.ly.toNat = 144 := congrArg UInt8.toNat ended
    rw [windowLimit_hblank mode, ← next, first] at window
    exact below rfl (Nat.le_of_eq first.symm) rfl window
  | blank mode line =>
    have first := (h.numbered.below mode line).1
    rw [windowLimit_blank mode first] at window
    exact below mode (by change 144 ≤ c.countLine.ly.toNat; omega) rfl window
  | last mode line =>
    have last : c.countLine.ly.toNat = 153 := congrArg UInt8.toNat line
    rw [windowLimit_blank mode (by omega)] at window
    exact below mode (last ▸ by decide) rfl window
  | wrap mode => exact Nat.zero_le _
  | top mode line =>
    rw [windowLimit_top mode line] at window
    exact Nat.le_trans window (Nat.zero_le _)

theorem Windowed.written {addr : UInt16} {val : UInt8} (h : c.Windowed)
    (w : Written c addr val c') : c'.Windowed := by
  refine ⟨h.numbered.written w, ?_⟩
  cases w with
  | other | control | stat | compare => exact h.window
  | off | on => exact Nat.zero_le _

/-- A write leaves the counter alone, unless it switches the screen: then the counter is 0. -/
theorem written_windowLine {addr : UInt16} {val : UInt8} (w : Written c addr val c') :
    c'.lcdOn = c.lcdOn ∧ c'.windowLine = c.windowLine ∨
      c'.lcdOn ≠ c.lcdOn ∧ c'.windowLine = 0 := by
  cases w with
  | other | stat | compare => exact .inl ⟨rfl, rfl⟩
  | control _ same => exact .inl ⟨same, rfl⟩
  | off _ before after =>
    refine .inr ⟨fun same => ?_, rfl⟩
    exact absurd (after.symm.trans (same.trans before)) (by decide)
  | on _ before after =>
    refine .inr ⟨fun same => ?_, rfl⟩
    exact absurd (after.symm.trans (same.trans before)) (by decide)

theorem Windowed.tick (h : c.Windowed) (cycles : Nat) : (c.tick cycles).Windowed := by
  refine ⟨h.numbered.tick cycles, ?_⟩
  obtain ⟨rest, after⟩ := c.tick_eq cycles
  rw [after]
  exact h.window

end Video.Course

namespace Bus

open Video (Course)

/-- Power-up, time and writes keep the counter from running ahead of the line. -/
theorem windowed_law : CourseLaw (fun _ => True) Course.Windowed where
  boot := ⟨numbered_law.boot, Nat.zero_le _⟩
  tick _ _ h := h.tick _
  turn due h t := ⟨numbered_law.turn due h.numbered t, (h.turn t).window⟩
  written h w := h.written w

/-! ## The lines of a frame -/

/-- The lines that have been drawn in the present frame, after a step of the frame. -/
def drawnAfter (b : Bus) (lines : List Video) : List Video :=
  if b.endsLine then lines ++ [b.video] else if b.run.Wraps then [] else lines

/-- The same, after the steps of the frame that are due. -/
def settleDrawn (b : Bus) (lines : List Video) : List Video :=
  if _ : b.video.pending = true then b.advanceVideo.settleDrawn (b.drawnAfter lines) else lines
termination_by (1 - b.video.nextCycles).toNat
decreasing_by
  have due : b.video.pending = true := by assumption
  have later := advanceVideo_nextCycles b due
  have behind := Video.nextCycles_of_pending due
  omega

/-- The lines that have been drawn since the frame began, each as the picture unit was when its
drawing ended. Whatever leaves the course of the frame alone leaves them alone too: a picture that
is attached or taken away, the switches of the layers, a change of speed. -/
inductive Drawn : Bus → List Video → Prop where
  | new (model : Model) : Drawn (Bus.new model) []
  | reset {b : Bus} {lines : List Video} (model : Model) : Drawn b lines → Drawn (b.reset model) []
  | write {b : Bus} {lines : List Video} (addr : UInt16) (val : UInt8) :
      Drawn b lines → Drawn (b.write addr val)
        (if (b.write addr val).video.lcdOn = b.video.lcdOn then lines else [])
  | step {b : Bus} {lines : List Video} (cycles : Nat) :
      Drawn b lines → Drawn (b.step cycles) ((b.ticked cycles).settleDrawn lines)
  | aside {b b' : Bus} {lines : List Video} :
      Drawn b lines → b'.video.course = b.video.course → Drawn b' lines

/-- Every bus that is attained has a history. -/
theorem Attained.drawn {b : Bus} (h : b.Attained fun _ => True) : ∃ lines, b.Drawn lines := by
  induction h with
  | new model => exact ⟨_, .new model⟩
  | write addr val _ ih =>
    obtain ⟨lines, drawn⟩ := ih
    exact ⟨_, drawn.write addr val⟩
  | @step b cycles _ _ ih =>
    obtain ⟨lines, drawn⟩ := ih
    exact ⟨_, drawn.step cycles⟩
  | aside _ course ih =>
    obtain ⟨lines, drawn⟩ := ih
    exact ⟨_, drawn.aside course⟩

/-! ## Rows -/

/-- The rows of the window that some lines have shown. -/
def shownRows (lines : List Video) : List Nat :=
  (lines.filter fun v => v.ShowsWindow).map fun v => v.windowLine.toNat

/-- Some lines have shown the rows up to the counter, in order. -/
structure InRows (b : Bus) (lines : List Video) : Prop where
  windowed : b.video.course.Windowed
  rows : shownRows lines = List.range b.video.windowLine.toNat

variable {b b' : Bus} {lines : List Video}

theorem InRows.congr (h : b.InRows lines) (course : b'.video.course = b.video.course) :
    b'.InRows lines := by
  have line : b'.video.windowLine = b.video.windowLine := congrArg Course.windowLine course
  exact ⟨course ▸ h.windowed, line ▸ h.rows⟩

/-- **One step of the frame** that is due. -/
theorem InRows.advance (h : b.InRows lines) (due : b.video.pending = true) :
    b.advanceVideo.InRows (b.drawnAfter lines) := by
  refine ⟨windowed_law.advance h.windowed, ?_⟩
  have course : b.advanceVideo.video.course = b.run.advance.1.video.course :=
    congrArg Prod.fst (advanceVideo_pace b)
  have counter : b.advanceVideo.video.windowLine = b.run.advance.1.video.windowLine :=
    congrArg Course.windowLine course
  have same : b.run.video = b.video := rfl
  rw [counter, Video.Run.advance_windowLine due, same]
  unfold drawnAfter endsLine
  simp only [beq_iff_eq]
  by_cases ends : b.run.advance.2 = some .hblank
  · obtain ⟨c, turn, -⟩ := Video.Run.advance_turns (r := b.run) due
    rw [ends] at turn
    have room := h.windowed.window_lt turn
    rw [if_pos ends, if_pos ends, shownRows, List.filter_append, List.map_append]
    change shownRows lines ++ _ = _
    rw [h.rows]
    by_cases shows : b.video.ShowsWindow
    · have next : (b.video.windowLine + 1).toNat = b.video.windowLine.toNat + 1 :=
        toNat_add_one (Nat.lt_of_le_of_lt room (by decide))
      rw [if_pos shows, next, List.range_succ]
      simp [shows]
    · rw [if_neg shows]
      simp [shows]
  · rw [if_neg ends, if_neg ends]
    by_cases wraps : b.run.Wraps
    · rw [if_pos wraps, if_pos wraps]
      rfl
    · rw [if_neg wraps, if_neg wraps]
      exact h.rows

/-- **All the steps of the frame** that are due. -/
theorem InRows.settle (h : b.InRows lines) : b.settle.InRows (b.settleDrawn lines) := by
  fun_induction settleDrawn b lines with
  | case1 b lines due ih =>
    rw [Bus.settle, dif_pos due]
    exact ih (h.advance due)
  | case2 b lines idle =>
    rw [Bus.settle, dif_neg idle]
    exact h

/-- Only the switch of the screen has a part in the counter, and then there are no lines yet. -/
theorem InRows.write (h : b.InRows lines) (addr : UInt16) (val : UInt8) :
    (b.write addr val).InRows
      (if (b.write addr val).video.lcdOn = b.video.lcdOn then lines else []) := by
  have written := write_written b addr val
  refine ⟨h.windowed.written written, ?_⟩
  rcases Course.written_windowLine written with ⟨switch, counter⟩ | ⟨switch, counter⟩
  · have kept : (b.write addr val).video.windowLine = b.video.windowLine := counter
    have stays : (b.write addr val).video.lcdOn = b.video.lcdOn := switch
    rw [if_pos stays, kept]
    exact h.rows
  · have top : (b.write addr val).video.windowLine = 0 := counter
    have goes : (b.write addr val).video.lcdOn ≠ b.video.lcdOn := switch
    rw [if_neg goes, top]
    rfl

theorem InRows.step (h : b.InRows lines) (cycles : Nat) :
    (b.step cycles).InRows ((b.ticked cycles).settleDrawn lines) := by
  have ticked : (b.ticked cycles).video.course = b.video.course.tick (b.baseCycles cycles) :=
    ticked_course b cycles
  obtain ⟨rest, after⟩ := b.video.course.tick_eq (b.baseCycles cycles)
  have counter : (b.ticked cycles).video.course.windowLine = b.video.course.windowLine := by
    rw [ticked, after]
  rw [step_ticked]
  refine InRows.settle ⟨ticked ▸ h.windowed.tick _, ?_⟩
  have kept : (b.ticked cycles).video.windowLine = b.video.windowLine := counter
  rw [kept]
  exact h.rows

/-- **The whole history.** -/
theorem Drawn.inRows (h : b.Drawn lines) : b.InRows lines := by
  induction h with
  | new model => exact ⟨windowed_law.boot, rfl⟩
  | reset model _ _ => exact ⟨windowed_law.boot, rfl⟩
  | write addr val _ ih => exact ih.write addr val
  | step cycles _ ih => exact ih.step cycles
  | aside _ course ih => exact ih.congr course

/-- Every bus that is attained, with a picture or without one and whatever its layers, has a history
of the lines of its frame. The window's counter is the number of those lines that have shown the
window; it is at most 144, so that it never overflows; and the rows that these lines have shown are
the rows of the window from the first on, each once and in order. -/
theorem rows_in_order (h : b.Attained fun _ => True) :
    (∃ lines, b.Drawn lines) ∧ ∀ lines, b.Drawn lines →
      b.video.windowLine.toNat = lines.countP (fun v => v.ShowsWindow) ∧
      b.video.windowLine.toNat ≤ 144 ∧
      (lines.filter fun v => v.ShowsWindow).map (fun v => v.windowLine.toNat) =
        List.range b.video.windowLine.toNat := by
  refine ⟨h.drawn, ?_⟩
  intro lines drawn
  have inRows := drawn.inRows
  refine ⟨?_, inRows.windowed.window_le, inRows.rows⟩
  have shown : (shownRows lines).length = b.video.windowLine.toNat := by
    rw [inRows.rows, List.length_range]
  rw [List.countP_eq_length_filter, ← shown, shownRows, List.length_map]

/-- A bus with the window switched on after power-up, its corner in that of the picture. -/
def withWindow : Bus :=
  ((new .dmg).write 0xFF4B 0x07).write 0xFF40 0xB1

/-- After 252 cycles the first line of the frame has been drawn, and it has shown row 0. -/
theorem rows_in_order_first :
    (withWindow.step 252).Attained (fun _ => True) ∧
      ∃ lines, (withWindow.step 252).Drawn lines ∧ lines.countP (fun v => v.ShowsWindow) = 1 ∧
        (lines.filter fun v => v.ShowsWindow).map (fun v => v.windowLine.toNat) = [0] := by
  have attained : (withWindow.step 252).Attained fun _ => True :=
    .step (.write _ _ (.write _ _ (.new .dmg))) trivial
  have counter : (withWindow.step 252).video.windowLine = 1 := by
    change (withWindow.ticked 252).settle.video.windowLine = 1
    rw [settle, dif_pos (by decide +kernel), settle, dif_pos (by decide +kernel), settle,
      dif_neg (by decide +kernel)]
    decide +kernel
  obtain ⟨⟨lines, drawn⟩, all⟩ := rows_in_order attained
  obtain ⟨count, -, rows⟩ := all lines drawn
  rw [counter] at count rows
  exact ⟨attained, lines, drawn, count.symm, rows⟩

end Bus

end DotMatrix
