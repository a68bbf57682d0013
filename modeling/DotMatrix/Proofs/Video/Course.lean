import DotMatrix.Video.Registers

/-!
# What paces a frame

`Course` is the part of the picture unit that paces a frame: the screen switch, the line and the
line it is compared with, the mode, the countdown to the next step, and the STAT line. Memories,
colours and the host's picture have no part in it. Everything that may happen to the course is said
once, as relations between the course before and after; the invariants of the frame are proved from
these relations alone.

Results:
* `Turn`, **`advance_turns`**: what a step of the frame does to the course, by mode and line.
* `Written`, **`write_written`**: what a write to a register does to it.
* `Edge`, **`advance_edge`**, **`write_edge`**: both request the STAT interrupt exactly when its
  condition begins to hold.
* `backing`, `advance_backing`: what no step of the frame has a part in.
-/

namespace DotMatrix

namespace Video

/-- The part of the picture unit that paces a frame. -/
structure Course where
  lcdc : UInt8
  stat : UInt8
  ly : UInt8
  lyc : UInt8
  coincidence : Bool
  windowLine : UInt8
  nextCycles : Int
  mode : UInt8
  statLine : Bool

/-- The course of a picture unit. -/
def course (v : Video) : Course :=
  { lcdc := v.lcdc
    stat := v.stat
    ly := v.ly
    lyc := v.lyc
    coincidence := v.coincidence
    windowLine := v.windowLine
    nextCycles := v.nextCycles
    mode := v.mode
    statLine := v.statLine }

namespace Course

/-- Whether the screen is on. -/
def lcdOn (c : Course) : Bool :=
  hasBit c.lcdc 0x80

/-- Whether a step of the frame is due. -/
def pending (c : Course) : Bool :=
  c.lcdOn && c.nextCycles ≤ 0

/-- The condition of the STAT interrupt: the screen is on, and one of the sources that STAT enables
holds (the line compared equal, or the mode is 0, 1 or 2). -/
def statCondition (c : Course) : Bool :=
  c.lcdOn && (c.coincidence && hasBit c.stat 0x40 || c.mode == 0 && hasBit c.stat 0x08 ||
    c.mode == 1 && hasBit c.stat 0x10 || c.mode == 2 && hasBit c.stat 0x20)

/-- The STAT line takes the value of its condition. -/
def updateStat (c : Course) : Course :=
  { c with statLine := c.statCondition }

/-- The line is compared with LYC. -/
def compareLine (c : Course) : Course :=
  { c with coincidence := c.ly == c.lyc }

/-- The next line, compared with LYC. -/
def countLine (c : Course) : Course :=
  compareLine { c with ly := c.ly + 1 }

/-- Cycles pass. -/
def tick (c : Course) (cycles : Nat) : Course :=
  if c.lcdOn then { c with nextCycles := c.nextCycles - signedCount cycles } else c

/-- The screen has gone off with the write of `val`. -/
def switchOff (c : Course) (val : UInt8) : Course :=
  { c with
    lcdc := val, ly := 0, mode := hblankMode, nextCycles := 0, windowLine := 0, statLine := false }

/-- The screen has gone on with the write of `val`. -/
def switchOn (c : Course) (val : UInt8) : Course :=
  updateStat (compareLine
    { c with lcdc := val, ly := 0, windowLine := 0, mode := scanMode, nextCycles := 80 })

/-- The course that the boot program leaves. -/
def booted : Course :=
  { lcdc := 0x91
    stat := 0
    ly := 0
    lyc := 0
    coincidence := true
    windowLine := 0
    nextCycles := 80
    mode := scanMode
    statLine := false }

/-- The condition does not depend on the line that follows it. -/
theorem updateStat_statCondition (c : Course) : c.updateStat.statCondition = c.statCondition := rfl

/-- Of LCDC the condition depends on the screen switch alone. -/
theorem statCondition_of_switch {c : Course} {val : UInt8} (same : hasBit val 0x80 = c.lcdOn) :
    statCondition { c with lcdc := val } = c.statCondition := by
  have switch : lcdOn { c with lcdc := val } = c.lcdOn := same
  rw [statCondition, statCondition, switch]

/-- While the screen is off the condition does not hold. -/
theorem statCondition_of_off {c : Course} (off : c.lcdOn = false) : c.statCondition = false := by
  rw [statCondition, off, Bool.false_and]

end Course

theorem boot_course (v : Video) : v.boot.course = .booted := rfl

theorem statSignal_eq (v : Video) : v.statSignal = v.course.statCondition := by
  change (v.lcdOn && (v.coincidence && hasBit v.stat 0x40 || v.modeSignal)) =
    (v.lcdOn && (v.coincidence && hasBit v.stat 0x40 || v.mode == 0 && hasBit v.stat 0x08 ||
      v.mode == 1 && hasBit v.stat 0x10 || v.mode == 2 && hasBit v.stat 0x20))
  have modes : v.modeSignal = (v.mode == 0 && hasBit v.stat 0x08 ||
      v.mode == 1 && hasBit v.stat 0x10 || v.mode == 2 && hasBit v.stat 0x20) := by
    unfold modeSignal hblankMode vblankMode scanMode
    by_cases hblank : v.mode = 0
    · simp [hblank]
    by_cases vblank : v.mode = 1
    · simp [vblank]
    by_cases scan : v.mode = 2
    · simp [scan]
    · simp [beq_eq_false_iff_ne.mpr hblank, beq_eq_false_iff_ne.mpr vblank,
        beq_eq_false_iff_ne.mpr scan]
  rw [modes, Bool.or_assoc, Bool.or_assoc, Bool.or_assoc]

/-! ## Time -/

/-- Fewer than 2^30 cycles: they are a positive number in 32 bits, and no countdown overflows. -/
def Short (cycles : Nat) : Prop :=
  cycles < 0x40000000

instance : DecidablePred Short := fun cycles => inferInstanceAs (Decidable (cycles < 0x40000000))

theorem Short.signedCount {cycles : Nat} (h : Short cycles) : signedCount cycles = cycles := by
  unfold Short at h
  exact if_pos (by omega)

theorem Short.mono {n cycles : Nat} (h : Short cycles) (le : n ≤ cycles) : Short n :=
  Nat.lt_of_le_of_lt le h

theorem tick_course (v : Video) (cycles : Nat) : (v.tick cycles).course = v.course.tick cycles := by
  change _ = if v.lcdOn then _ else _
  unfold tick
  split <;> rfl

/-- Time has a part in the countdown alone. -/
theorem Course.tick_eq (c : Course) (cycles : Nat) :
    ∃ rest, c.tick cycles = { c with nextCycles := rest } := by
  unfold Course.tick
  split
  · exact ⟨_, rfl⟩
  · exact ⟨c.nextCycles, rfl⟩

/-- What a step of the frame does to the course, before the STAT line is looked at, and what the bus
gets to know of it. -/
inductive Turn (c : Course) : Course → Option Event → Prop where
  /-- A line goes from the look-up of objects to the drawing. -/
  | draw (mode : c.mode = scanMode) :
      Turn c { c with mode := drawMode, nextCycles := c.nextCycles + 172 } none
  /-- A line is drawn; the window's counter may move on. -/
  | hblank (counted : UInt8) (mode : c.mode ≠ hblankMode ∧ c.mode ≠ vblankMode ∧ c.mode ≠ scanMode)
      (window : counted = c.windowLine ∨ counted = c.windowLine + 1) :
      Turn c { c with
        mode := hblankMode, nextCycles := c.nextCycles + 204, windowLine := counted } (some .hblank)
  /-- The next visible line. -/
  | scan (mode : c.mode = hblankMode) (visible : c.ly + 1 ≠ 144) :
      Turn c { c.countLine with mode := scanMode, nextCycles := c.nextCycles + 80 } none
  /-- The visible lines are over. -/
  | vblank (mode : c.mode = hblankMode) (ended : c.ly + 1 = 144) :
      Turn c { c.countLine with mode := vblankMode, nextCycles := c.nextCycles + 456 } (some .vblank)
  /-- The next line without a picture. -/
  | blank (mode : c.mode = vblankMode) (line : c.ly ≠ 0) (inner : c.ly + 1 ≠ 153 ∧ c.ly + 1 ≠ 154) :
      Turn c { c.countLine with nextCycles := c.nextCycles + 456 } none
  /-- The last line without a picture, as long as it reads as itself. -/
  | last (mode : c.mode = vblankMode) (line : c.ly + 1 = 153) :
      Turn c { c.countLine with nextCycles := c.nextCycles + 4 } none
  /-- The last line without a picture begins to read as line 0. -/
  | wrap (mode : c.mode = vblankMode) (line : c.ly + 1 = 154) :
      Turn c (Course.compareLine
        { c with ly := 0, windowLine := 0, nextCycles := c.nextCycles + 452 }) none
  /-- The next frame. -/
  | top (mode : c.mode = vblankMode) (line : c.ly = 0) :
      Turn c { c with mode := scanMode, nextCycles := c.nextCycles + 80 } none

namespace Course

variable {c c' : Course} {event : Option Event}

/-- No line of a frame is the last that a byte can count. -/
theorem countLine_toNat (h : c.ly.toNat ≤ 153) : c.countLine.ly.toNat = c.ly.toNat + 1 :=
  toNat_add_one (by omega)

theorem turn_lcdOn (t : Turn c c' event) : c'.lcdOn = c.lcdOn := by
  cases t <;> rfl

theorem turn_statLine (t : Turn c c' event) : c'.statLine = c.statLine := by
  cases t <;> rfl

end Course

theorem refreshColours_course (v : Video) : v.refreshColours.course = v.course := by
  unfold refreshColours
  split <;> rfl

/-- Drawing a line has a part in the course through the window's counter alone. -/
theorem countWindow_course (v : Video) :
    ∃ counted, (counted = v.windowLine ∨ counted = v.windowLine + 1) ∧
      v.countWindow.course = { v.course with windowLine := counted } := by
  unfold countWindow
  split
  · exact ⟨_, .inr rfl, rfl⟩
  · exact ⟨_, .inl rfl, rfl⟩

theorem renderLine_course (v : Video) :
    ∃ counted, (counted = v.windowLine ∨ counted = v.windowLine + 1) ∧
      v.renderLine.course = { v.course with windowLine := counted } := by
  unfold renderLine
  split
  · have same : v.refreshColours.paintLine.course = v.course := refreshColours_course v
    obtain ⟨counted, window, course⟩ := countWindow_course v.refreshColours.paintLine
    rw [same] at course
    have line : v.refreshColours.paintLine.windowLine = v.windowLine :=
      congrArg Course.windowLine same
    exact ⟨counted, line ▸ window, course⟩
  · exact countWindow_course v

theorem enterHblank_turns (v : Video)
    (mode : v.mode ≠ hblankMode ∧ v.mode ≠ vblankMode ∧ v.mode ≠ scanMode) :
    Turn v.course v.enterHblank.course (some .hblank) := by
  obtain ⟨counted, window, course⟩ := renderLine_course (v.enter hblankMode 204)
  rw [enterHblank, course]
  exact .hblank counted mode window

theorem nextBlankLine_turns (v : Video) (mode : v.mode = vblankMode) (line : v.ly ≠ 0) :
    Turn v.course v.nextBlankLine.course none := by
  simp only [nextBlankLine, beq_iff_eq]
  split
  next last => exact .last mode last
  next inner =>
    split
    next wrap => exact .wrap mode wrap
    next same => exact .blank mode line ⟨inner, same⟩

namespace Run

theorem nextLine_turns (r : Run) (mode : r.video.mode = hblankMode) :
    Turn r.video.course r.nextLine.1.video.course r.nextLine.2 := by
  simp only [nextLine, beginLine, beq_iff_eq]
  split
  next ended => exact .vblank mode ended
  next visible => exact .scan mode visible

theorem turn_turns (r : Run) : Turn r.video.course r.turn.1.video.course r.turn.2 := by
  simp only [turn, beq_iff_eq]
  split
  next mode => exact nextLine_turns r mode
  next hblank =>
    split
    next mode =>
      split
      next line => exact .top mode line
      next line => exact nextBlankLine_turns r.video mode line
    next vblank =>
      split
      next mode => exact .draw mode
      next scan => exact enterHblank_turns r.video ⟨hblank, vblank, scan⟩

/-- A step of the frame that is due: a turn, and then the STAT line takes its value. -/
theorem advance_turns {r : Run} (due : r.video.pending = true) :
    ∃ c, Turn r.video.course c r.advance.2 ∧ r.advance.1.video.course = c.updateStat := by
  refine ⟨r.turn.1.video.course, ?_, ?_⟩
  · have event : r.advance.2 = r.turn.2 := by
      unfold advance
      rw [if_pos due]
    rw [event]
    exact turn_turns r
  · unfold advance
    rw [if_pos due, Course.updateStat, ← statSignal_eq]
    rfl

theorem advance_idle {r : Run} (idle : r.video.pending = false) : r.advance = (r, none) := by
  unfold advance
  rw [if_neg (by simp [idle])]

end Run

/-! ## Registers -/

/-- What a write of `val` to a register does to the course. -/
inductive Written (c : Course) : UInt16 → UInt8 → Course → Prop where
  /-- Most registers have no part in the course. -/
  | other (addr : UInt16) (val : UInt8)
      (elsewhere : addr ≠ 0xFF40 ∧ addr ≠ 0xFF41 ∧ addr ≠ 0xFF45) : Written c addr val c
  /-- The screen stays on, or off. -/
  | control (val : UInt8) (same : hasBit val 0x80 = c.lcdOn) :
      Written c 0xFF40 val { c with lcdc := val }
  | off (val : UInt8) (before : c.lcdOn = true) (after : hasBit val 0x80 = false) :
      Written c 0xFF40 val (c.switchOff val)
  | on (val : UInt8) (before : c.lcdOn = false) (after : hasBit val 0x80 = true) :
      Written c 0xFF40 val (c.switchOn val)
  | stat (val : UInt8) :
      Written c 0xFF41 val (Course.updateStat (Course.compareLine { c with stat := val &&& 0x78 }))
  | compare (val : UInt8) :
      Written c 0xFF45 val (Course.updateStat (Course.compareLine { c with lyc := val }))

/-- Writing LCDC with the screen off and its bit set switches it on. -/
theorem Written.course_on {c c' : Course} {addr : UInt16} {val : UInt8} (w : Written c addr val c')
    (control : addr = 0xFF40) (off : c.lcdOn = false) (on : hasBit val 0x80 = true) :
    c' = c.switchOn val := by
  cases w with
  | other _ _ elsewhere => exact absurd control elsewhere.1
  | control _ same => exact absurd (on.symm.trans (same.trans off)) (by decide)
  | off _ before => exact absurd (before.symm.trans off) (by decide)
  | on => rfl
  | stat | compare => exact absurd control (by decide)

/-- Writing LCDC with the screen on and its bit clear switches it off. -/
theorem Written.course_off {c c' : Course} {addr : UInt16} {val : UInt8} (w : Written c addr val c')
    (control : addr = 0xFF40) (on : c.lcdOn = true) (off : hasBit val 0x80 = false) :
    c' = c.switchOff val := by
  cases w with
  | other _ _ elsewhere => exact absurd control elsewhere.1
  | control _ same => exact absurd (off.symm.trans (same.trans on)) (by decide)
  | off => rfl
  | on _ before => exact absurd (before.symm.trans on) (by decide)
  | stat | compare => exact absurd control (by decide)

theorem writeColourReg_course (v : Video) (addr : UInt16) (val : UInt8) :
    (v.writeColourReg addr val).course = v.course := by
  unfold writeColourReg
  split <;> rfl

namespace Run

/-- The course after the STAT line is looked at. -/
theorem updateStat_course (r : Run) : r.updateStat.video.course = r.video.course.updateStat := by
  rw [Course.updateStat, ← statSignal_eq]
  rfl

theorem writeLcdc_written (r : Run) (val : UInt8) :
    Written r.video.course 0xFF40 val (r.writeLcdc val).video.course := by
  have before : r.video.course.lcdOn = r.video.lcdOn := rfl
  have after : (r.update fun v => { v with lcdc := val }).video.lcdOn = hasBit val 0x80 := rfl
  simp only [writeLcdc, after]
  cases was : r.video.lcdOn <;> cases goes : hasBit val 0x80
  · exact .control val (goes.trans was.symm)
  · simp only [Bool.not_false, Bool.not_true, Bool.and_false, Bool.and_true, if_true,
      Bool.false_eq_true, if_false, updateStat_course]
    exact .on val was goes
  · exact .off val was goes
  · exact .control val (goes.trans was.symm)

/-- A write to a register. -/
theorem write_written (r : Run) (addr : UInt16) (val : UInt8) :
    Written r.video.course addr val (r.write addr val).video.course := by
  unfold write
  split
  case h_1 => exact writeLcdc_written r val
  case h_2 =>
    rw [writeStat, updateStat_course]
    exact .stat val
  case h_6 =>
    rw [writeLyc, updateStat_course]
    exact .compare val
  case h_12 control stat _ _ _ compare _ _ _ _ _ =>
    have same : (if r.video.isColour then r.video.writeColourReg addr val
        else r.video).course = r.video.course := by
      split
      · exact writeColourReg_course r.video addr val
      · rfl
    simp only [update, same]
    exact .other addr val ⟨control, stat, compare⟩
  all_goals exact .other _ val (by decide)

/-! ## Requests -/

/-- Whether the STAT interrupt is requested. -/
def statRequested (r : Run) : Bool :=
  hasBit r.requests Interrupt.stat.mask

/-- The STAT interrupt is requested exactly when its condition begins to hold; a request that is
there already stays. -/
def Edge (r r' : Run) : Prop :=
  r'.statRequested = (r.statRequested ||
    (!r.video.course.statCondition && r'.video.course.statCondition))

theorem raise_stat (requests : UInt8) :
    hasBit (Interrupt.stat.raise requests) Interrupt.stat.mask = true := by
  rw [Interrupt.raise, hasBit_or, Bool.or_eq_true]
  exact .inr (by decide)

/-- Every interrupt has a request of its own. -/
theorem raise_other {i : Interrupt} (other : i ≠ .stat) (requests : UInt8) :
    hasBit (i.raise requests) Interrupt.stat.mask = hasBit requests Interrupt.stat.mask := by
  have mask : hasBit i.mask Interrupt.stat.mask = false := by
    cases i with
    | stat => exact absurd rfl other
    | vblank | timer | serial | joypad => decide
  rw [Interrupt.raise, hasBit_or, mask, Bool.or_false]

/-- Looking at the STAT line requests the interrupt when the line rises. -/
theorem updateStat_requested (r : Run) :
    r.updateStat.statRequested =
      (r.statRequested || (!r.video.statLine && r.video.course.statCondition)) := by
  rw [← statSignal_eq]
  unfold statRequested updateStat
  cases high : r.video.statLine <;> cases signal : r.video.statSignal <;>
    simp [raise_stat]

/-- Where the STAT line has the value of its condition, and the change that it is looked at for
touches neither the line nor the request, the interrupt is requested at the edge. -/
theorem updateStat_edge {r r' : Run} (line : r.video.statLine = r.video.course.statCondition)
    (kept : r'.video.statLine = r.video.statLine) (request : r'.statRequested = r.statRequested) :
    r.Edge r'.updateStat := by
  have condition : r'.updateStat.video.course.statCondition = r'.video.course.statCondition := by
    rw [updateStat_course, Course.updateStat_statCondition]
  rw [Edge, updateStat_requested, condition, kept, line, request]

/-- No edge is no request. -/
theorem Edge.of_same {r r' : Run}
    (condition : r'.video.course.statCondition = r.video.course.statCondition)
    (request : r'.statRequested = r.statRequested) : r.Edge r' := by
  rw [Edge, condition, request, Bool.not_and_self, Bool.or_false]

theorem turn_requested (r : Run) : r.turn.1.statRequested = r.statRequested := by
  have vblank : r.startVblank.statRequested = r.statRequested := raise_other (by decide) _
  unfold turn
  split
  · unfold nextLine beginLine
    split
    · exact vblank
    · rfl
  · split
    · split <;> rfl
    · split <;> rfl

/-- **A step of the frame** requests the STAT interrupt at the edge. -/
theorem advance_edge {r : Run} (line : r.video.statLine = r.video.course.statCondition) :
    r.Edge r.advance.1 := by
  by_cases due : r.video.pending = true
  · have turned : r.advance.1 = r.turn.1.updateStat := by
      unfold advance
      rw [if_pos due]
    rw [turned]
    exact updateStat_edge line (Course.turn_statLine (turn_turns r)) (turn_requested r)
  · rw [advance_idle (by simpa using due)]
    exact .of_same rfl rfl

/-- The screen goes off, goes on, or stays: only going on can be an edge. -/
theorem writeLcdc_edge {r : Run} (line : r.video.statLine = r.video.course.statCondition)
    (val : UInt8) : r.Edge (r.writeLcdc val) := by
  have after : (r.update fun v => { v with lcdc := val }).video.lcdOn = hasBit val 0x80 := rfl
  have stays (same : hasBit val 0x80 = r.video.course.lcdOn) :
      r.Edge (r.update fun v => { v with lcdc := val }) :=
    .of_same (Course.statCondition_of_switch same) rfl
  simp only [writeLcdc, after]
  cases was : r.video.lcdOn <;> cases goes : hasBit val 0x80
  · exact stays (goes.trans was.symm)
  · exact updateStat_edge line rfl rfl
  · have off : Course.statCondition (r.video.course.switchOff val) = false :=
      Course.statCondition_of_off goes
    change r.statRequested = (_ || (_ && Course.statCondition (r.video.course.switchOff val)))
    rw [off, Bool.and_false, Bool.or_false]
  · exact stays (goes.trans was.symm)

/-- **A write to a register** requests the STAT interrupt at the edge. -/
theorem write_edge {r : Run} (line : r.video.statLine = r.video.course.statCondition)
    (addr : UInt16) (val : UInt8) : r.Edge (r.write addr val) := by
  unfold write
  split
  case h_1 => exact writeLcdc_edge line val
  case h_2 => exact updateStat_edge line rfl rfl
  case h_6 => exact updateStat_edge line rfl rfl
  case h_12 =>
    have same : (if r.video.isColour then r.video.writeColourReg addr val
        else r.video).course = r.video.course := by
      split
      · exact writeColourReg_course r.video addr val
      · rfl
    refine .of_same ?_ rfl
    simp only [update, same]
  all_goals exact .of_same rfl rfl

end Run

/-! ## What the frame leaves alone -/

/-- The memory of the unit and its bank register, the model, the block transfer, and what the host
has chosen: no step of the frame has a part in them. -/
def backing (v : Video) : Array UInt8 × UInt8 × Model × BlockTransfer × Palette × Layers :=
  (v.vram, v.vbk, v.model, v.transfer, v.palette, v.layers)

theorem tick_backing (v : Video) (cycles : Nat) : (v.tick cycles).backing = v.backing := by
  unfold tick
  split <;> rfl

theorem refreshColours_backing (v : Video) : v.refreshColours.backing = v.backing := by
  unfold refreshColours
  split <;> rfl

theorem countWindow_backing (v : Video) : v.countWindow.backing = v.backing := by
  unfold countWindow
  split <;> rfl

theorem renderLine_backing (v : Video) : v.renderLine.backing = v.backing := by
  unfold renderLine
  split
  · rw [countWindow_backing]
    exact refreshColours_backing v
  · exact countWindow_backing v

theorem nextBlankLine_backing (v : Video) : v.nextBlankLine.backing = v.backing := by
  simp only [nextBlankLine, compareLine]
  split
  · rfl
  · split <;> rfl

namespace Run

theorem nextLine_backing (r : Run) : r.nextLine.1.video.backing = r.video.backing := by
  unfold nextLine beginLine
  split <;> rfl

theorem turn_backing (r : Run) : r.turn.1.video.backing = r.video.backing := by
  unfold turn
  split
  · exact nextLine_backing r
  split
  · split
    · rfl
    · exact nextBlankLine_backing r.video
  split
  · rfl
  · exact renderLine_backing (r.video.enter hblankMode 204)

/-- A step of the frame leaves the memory, the transfer and the host's choices alone. -/
theorem advance_backing (r : Run) : r.advance.1.video.backing = r.video.backing := by
  unfold advance
  split
  · exact turn_backing r
  · rfl

end Run

end Video
end DotMatrix
