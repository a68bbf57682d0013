import DotMatrix.Proofs.Bus.Course

/-!
# Where a frame can be

With the screen on, a frame is in one of five stages: the look-up of objects, the drawing, the rest
of a visible line, a line without a picture, and the last such line once it reads as line 0. A
`Stage` bounds the line, the window's counter and the countdown; with the screen off the frame
stands at its top. `Placed` says both, and holds also between the steps that a long step of the bus
makes, where the countdown is behind.

Results:
* `Stage.turn`: a step of the frame that is due leads from stage to stage.
* `placed_law`: power-up, time and writes keep the frame at a place.
* `Attained.idle`: between operations no step of the frame is due.
* **`attained_inPlace`**: on every bus that is attained the frame is at a place with its bounds, and
  a step of the bus makes finitely many steps of the frame, each along an edge of `moves` and none
  past line 255.
-/

namespace DotMatrix

namespace Video

/-- The moves of the mode that a step of the frame may make. -/
def moves : List (UInt8 × UInt8) :=
  [(scanMode, drawMode), (drawMode, hblankMode), (hblankMode, scanMode), (hblankMode, vblankMode),
    (vblankMode, vblankMode), (vblankMode, scanMode)]

/-- Where the unit can be between operations. -/
structure InPlace (v : Video) : Prop where
  line : v.ly.toNat ≤ 153
  off : v.lcdOn = false →
    v.ly = 0 ∧ v.mode = hblankMode ∧ v.windowLine = 0 ∧ v.statLine = false
  modes : v.mode ∈ [hblankMode, vblankMode, scanMode, drawMode]
  scan : v.lcdOn = true → v.mode = scanMode →
    v.ly.toNat ≤ 143 ∧ (0 < v.nextCycles ∧ v.nextCycles ≤ 80) ∧ v.windowLine.toNat ≤ v.ly.toNat
  draw : v.lcdOn = true → v.mode = drawMode →
    v.ly.toNat ≤ 143 ∧ (0 < v.nextCycles ∧ v.nextCycles ≤ 172) ∧ v.windowLine.toNat ≤ v.ly.toNat
  hblank : v.lcdOn = true → v.mode = hblankMode →
    v.ly.toNat ≤ 143 ∧ (0 < v.nextCycles ∧ v.nextCycles ≤ 204) ∧
      v.windowLine.toNat ≤ v.ly.toNat + 1
  vblank : v.lcdOn = true → v.mode = vblankMode →
    (v.ly = 0 ∨ 144 ≤ v.ly.toNat ∧ v.ly.toNat ≤ 153) ∧ 0 < v.nextCycles ∧ v.nextCycles ≤ 456

namespace Course

/-- A stage of a frame. The countdown has an upper bound only: it is behind while steps are due. -/
inductive Stage (c : Course) : Prop where
  | scan (mode : c.mode = scanMode) (line : c.ly.toNat ≤ 143) (rest : c.nextCycles ≤ 80)
      (window : c.windowLine.toNat ≤ c.ly.toNat)
  | draw (mode : c.mode = drawMode) (line : c.ly.toNat ≤ 143) (rest : c.nextCycles ≤ 172)
      (window : c.windowLine.toNat ≤ c.ly.toNat)
  | hblank (mode : c.mode = hblankMode) (line : c.ly.toNat ≤ 143) (rest : c.nextCycles ≤ 204)
      (window : c.windowLine.toNat ≤ c.ly.toNat + 1)
  | blank (mode : c.mode = vblankMode) (first : 144 ≤ c.ly.toNat) (line : c.ly.toNat ≤ 153)
      (rest : c.nextCycles ≤ 456)
  | wrapped (mode : c.mode = vblankMode) (line : c.ly = 0) (rest : c.nextCycles ≤ 456)
      (window : c.windowLine = 0)

/-- At the top with the screen off, or in a stage of a frame. -/
structure Placed (c : Course) : Prop where
  off : c.lcdOn = false →
    c.ly = 0 ∧ c.mode = hblankMode ∧ c.windowLine = 0 ∧ c.statLine = false
  on : c.lcdOn = true → c.Stage

variable {c c' : Course} {event : Option Event}

/-- A stage depends on the mode, the line and the window's counter, and may be later. -/
theorem Stage.congr (h : c.Stage) (mode : c'.mode = c.mode) (line : c'.ly = c.ly)
    (window : c'.windowLine = c.windowLine) (rest : c'.nextCycles ≤ c.nextCycles) : c'.Stage := by
  cases h with
  | scan m l r w => exact .scan (mode.trans m) (line ▸ l) (Int.le_trans rest r) (line ▸ window ▸ w)
  | draw m l r w => exact .draw (mode.trans m) (line ▸ l) (Int.le_trans rest r) (line ▸ window ▸ w)
  | hblank m l r w =>
    exact .hblank (mode.trans m) (line ▸ l) (Int.le_trans rest r) (line ▸ window ▸ w)
  | blank m f l r => exact .blank (mode.trans m) (line ▸ f) (line ▸ l) (Int.le_trans rest r)
  | wrapped m l r w =>
    exact .wrapped (mode.trans m) (line.trans l) (Int.le_trans rest r) (window.trans w)

/-! ## What each mode says -/

theorem Stage.scan_of (h : c.Stage) (mode : c.mode = scanMode) :
    c.ly.toNat ≤ 143 ∧ c.nextCycles ≤ 80 ∧ c.windowLine.toNat ≤ c.ly.toNat := by
  cases h with
  | scan m l r w => exact ⟨l, r, w⟩
  | draw m | hblank m | blank m | wrapped m => exact absurd (m.symm.trans mode) (by decide)

theorem Stage.draw_of (h : c.Stage) (mode : c.mode = drawMode) :
    c.ly.toNat ≤ 143 ∧ c.nextCycles ≤ 172 ∧ c.windowLine.toNat ≤ c.ly.toNat := by
  cases h with
  | draw m l r w => exact ⟨l, r, w⟩
  | scan m | hblank m | blank m | wrapped m => exact absurd (m.symm.trans mode) (by decide)

theorem Stage.hblank_of (h : c.Stage) (mode : c.mode = hblankMode) :
    c.ly.toNat ≤ 143 ∧ c.nextCycles ≤ 204 ∧ c.windowLine.toNat ≤ c.ly.toNat + 1 := by
  cases h with
  | hblank m l r w => exact ⟨l, r, w⟩
  | scan m | draw m | blank m | wrapped m => exact absurd (m.symm.trans mode) (by decide)

theorem Stage.vblank_of (h : c.Stage) (mode : c.mode = vblankMode) :
    (c.ly = 0 ∧ c.windowLine = 0 ∨ 144 ≤ c.ly.toNat ∧ c.ly.toNat ≤ 153) ∧ c.nextCycles ≤ 456 := by
  cases h with
  | blank m f l r => exact ⟨.inr ⟨f, l⟩, r⟩
  | wrapped m l r w => exact ⟨.inl ⟨l, w⟩, r⟩
  | scan m | draw m | hblank m => exact absurd (m.symm.trans mode) (by decide)

/-- A mode that is none of the other three is that of the drawing. -/
theorem Stage.mode_draw (h : c.Stage)
    (others : c.mode ≠ hblankMode ∧ c.mode ≠ vblankMode ∧ c.mode ≠ scanMode) :
    c.mode = drawMode := by
  cases h with
  | draw m => exact m
  | scan m => exact absurd m others.2.2
  | hblank m => exact absurd m others.1
  | blank m | wrapped m => exact absurd m others.2.1

theorem Stage.mem_modes (h : c.Stage) :
    c.mode ∈ [hblankMode, vblankMode, scanMode, drawMode] := by
  cases h with
  | scan m | draw m | hblank m | blank m | wrapped m =>
    rw [m]
    decide

theorem Stage.line_le (h : c.Stage) : c.ly.toNat ≤ 153 := by
  cases h with
  | scan m l | draw m l | hblank m l => omega
  | blank m f l => exact l
  | wrapped m l =>
    rw [l]
    decide

/-! ## Steps of the frame -/

/-- **A step of the frame that is due** leads from stage to stage. -/
theorem Stage.turn (h : c.Stage) (due : c.nextCycles ≤ 0) (t : Turn c c' event) : c'.Stage := by
  have next := countLine_toNat h.line_le
  have after {cycles : Int} : c.nextCycles + cycles ≤ cycles := by omega
  cases t with
  | draw mode =>
    obtain ⟨line, -, window⟩ := h.scan_of mode
    exact .draw rfl line after window
  | hblank counted mode counts =>
    obtain ⟨line, -, window⟩ := h.draw_of (h.mode_draw mode)
    refine .hblank rfl line after ?_
    rcases counts with rfl | rfl
    · exact Nat.le_succ_of_le window
    · rw [toNat_add_one (by omega)]
      exact Nat.succ_le_succ window
  | scan mode visible =>
    obtain ⟨line, -, window⟩ := h.hblank_of mode
    have inside : c.countLine.ly.toNat ≠ 144 := fun last => visible (UInt8.toNat_inj.mp last)
    have line : c.countLine.ly.toNat ≤ 143 := by omega
    have window : c.windowLine.toNat ≤ c.countLine.ly.toNat := by omega
    exact .scan rfl line after window
  | vblank mode ended =>
    have first : c.countLine.ly.toNat = 144 := congrArg UInt8.toNat ended
    exact .blank rfl (Nat.le_of_eq first.symm) (first ▸ by decide) after
  | blank mode line inner =>
    obtain ⟨stands | ⟨first, last⟩, -⟩ := h.vblank_of mode
    · exact absurd stands.1 line
    · have inside : c.countLine.ly.toNat ≠ 154 := fun last => inner.2 (UInt8.toNat_inj.mp last)
      have first : 144 ≤ c.countLine.ly.toNat := by omega
      have last : c.countLine.ly.toNat ≤ 153 := by omega
      exact .blank mode first last after
  | last mode line =>
    have last : c.countLine.ly.toNat = 153 := congrArg UInt8.toNat line
    have rest : c.nextCycles + 4 ≤ 456 := by omega
    exact .blank mode (last ▸ by decide) (Nat.le_of_eq last) rest
  | wrap mode line =>
    have rest : c.nextCycles + 452 ≤ 456 := by omega
    exact .wrapped mode rfl rest rfl
  | top mode line =>
    obtain ⟨⟨-, window⟩ | ⟨first, -⟩, -⟩ := h.vblank_of mode
    · have window : c.windowLine.toNat ≤ c.ly.toNat := by simp [window]
      exact .scan rfl (line ▸ by decide) after window
    · rw [line] at first
      exact absurd first (by decide)

/-- A step of the frame moves the mode along an edge of `moves`. -/
theorem Stage.turn_moves (h : c.Stage) (t : Turn c c' event) : (c.mode, c'.mode) ∈ moves := by
  cases t with
  | draw mode => simp [moves, mode]
  | hblank counted mode => simp [moves, h.mode_draw mode]
  | scan mode => simp [moves, mode]
  | vblank mode => simp [moves, mode]
  | blank mode => simp [moves, mode, Course.countLine, Course.compareLine]
  | last mode => simp [moves, mode, Course.countLine, Course.compareLine]
  | wrap mode => simp [moves, mode, Course.compareLine]
  | top mode => simp [moves, mode]

/-! ## Places -/

theorem Placed.turn (h : c.Placed) (due : c.pending = true) (t : Turn c c' event) :
    c'.updateStat.Placed := by
  simp only [pending, Bool.and_eq_true, decide_eq_true_eq] at due
  obtain ⟨on, rest⟩ := due
  refine ⟨fun off => ?_, fun _ => ?_⟩
  · have off' : c'.lcdOn = false := off
    rw [turn_lcdOn t, on] at off'
    cases off'
  · exact ((h.on on).turn rest t).congr rfl rfl rfl (Int.le_refl _)

theorem Placed.tick (h : c.Placed) {cycles : Nat} (length : Short cycles) :
    (c.tick cycles).Placed := by
  unfold Course.tick
  split
  · rename_i on
    have later : c.nextCycles - signedCount cycles ≤ c.nextCycles := by
      rw [length.signedCount]
      omega
    exact ⟨fun off => absurd (on.symm.trans off) (by decide),
      fun _ => (h.on on).congr rfl rfl rfl later⟩
  · exact h

/-- Looking at the STAT line anew, and at nothing else. -/
theorem Placed.updated (h : c.Placed) (switch : c'.lcdOn = c.lcdOn) (mode : c'.mode = c.mode)
    (line : c'.ly = c.ly) (window : c'.windowLine = c.windowLine)
    (rest : c'.nextCycles = c.nextCycles) : c'.updateStat.Placed := by
  refine ⟨fun off => ?_, fun on => ?_⟩
  · have off' : c'.lcdOn = false := off
    obtain ⟨l, m, w, -⟩ := h.off (switch.symm.trans off')
    exact ⟨line.trans l, mode.trans m, window.trans w, statCondition_of_off off'⟩
  · have on' : c'.lcdOn = true := on
    exact (h.on (switch.symm.trans on')).congr mode line window (Int.le_of_eq rest)

theorem Placed.written {addr : UInt16} {val : UInt8} (h : c.Placed)
    (w : Written c addr val c') : c'.Placed := by
  cases w with
  | other => exact h
  | control _ same =>
    refine ⟨fun off => h.off (same.symm.trans off), fun on => ?_⟩
    exact (h.on (same.symm.trans on)).congr rfl rfl rfl (Int.le_refl _)
  | off _ before after =>
    exact ⟨fun _ => ⟨rfl, rfl, rfl, rfl⟩, fun on => absurd (after.symm.trans on) (by decide)⟩
  | on _ before after =>
    refine ⟨fun off => absurd (after.symm.trans off) (by decide), fun _ => ?_⟩
    exact .scan rfl (Nat.zero_le 143) (Int.le_refl 80) (Nat.le_refl 0)
  | stat | compare => exact h.updated rfl rfl rfl rfl rfl

/-- No step of the frame is due after a write, if none was before. -/
theorem idle_written {addr : UInt16} {val : UInt8} (h : c.pending = false)
    (w : Written c addr val c') : c'.pending = false := by
  cases w with
  | other | stat | compare => exact h
  | control _ same =>
    have switch : lcdOn { c with lcdc := val } = c.lcdOn := same
    rw [pending, switch]
    exact h
  | off _ before after =>
    have switch : lcdOn (c.switchOff val) = false := after
    rw [pending, switch, Bool.false_and]
  | on => exact Bool.and_false _

end Course

end Video

namespace Bus

open Video (Course)

/-- Power-up, time and writes keep the frame at a place. -/
theorem placed_law : CourseLaw Video.Short Course.Placed where
  boot := ⟨fun off => absurd off (by decide),
    fun _ => .scan rfl (Nat.zero_le 143) (Int.le_refl 80) (Nat.le_refl 0)⟩
  tick length le h := h.tick (length.mono le)
  turn due h t := h.turn due t
  written h w := h.written w

variable {b : Bus}

/-- Between operations no step of the frame is due. -/
theorem Attained.idle {allowed : Nat → Prop} (h : b.Attained allowed) :
    b.video.course.pending = false := by
  induction h with
  | new model =>
    rw [new_course]
    rfl
  | @write b addr val _ ih => exact Course.idle_written ih (write_written b addr val)
  | @step b cycles _ _ _ =>
    obtain ⟨n, -, idle, -⟩ := step_during b cycles
    exact idle
  | aside _ course ih => exact (congrArg Course.pending course).trans ih

/-- A place with a countdown that is not behind has the bounds of its mode. -/
theorem inPlace_of_placed {v : Video} (h : v.course.Placed) (idle : v.pending = false) :
    v.InPlace := by
  have ahead (on : v.lcdOn = true) : 0 < v.nextCycles := by
    simpa [Video.pending, on] using idle
  by_cases on : v.lcdOn = true
  · have stage := h.on on
    refine ⟨stage.line_le, fun off => absurd (on.symm.trans off) (by decide), stage.mem_modes,
      fun _ mode => ?_, fun _ mode => ?_, fun _ mode => ?_, fun _ mode => ?_⟩
    · obtain ⟨line, rest, window⟩ := stage.scan_of mode
      exact ⟨line, ⟨ahead on, rest⟩, window⟩
    · obtain ⟨line, rest, window⟩ := stage.draw_of mode
      exact ⟨line, ⟨ahead on, rest⟩, window⟩
    · obtain ⟨line, rest, window⟩ := stage.hblank_of mode
      exact ⟨line, ⟨ahead on, rest⟩, window⟩
    · obtain ⟨line, rest⟩ := stage.vblank_of mode
      exact ⟨line.imp_left And.left, ahead on, rest⟩
  · have off : v.course.lcdOn = false := Bool.eq_false_iff.mpr on
    have line : v.ly = 0 := (h.off off).1
    have mode : v.mode = Video.hblankMode := (h.off off).2.1
    exact ⟨by simp [line], fun _ => h.off off, by simp [mode], fun yes => absurd yes on,
      fun yes => absurd yes on, fun yes => absurd yes on, fun yes => absurd yes on⟩

/-- **On every bus that is attained** the picture unit is at a place of the frame, with the bounds of
its mode. A step of the bus makes finitely many steps of the frame, all of which are due; each moves
the mode along an edge of `moves`, and none starts from a line that cannot be counted up. -/
theorem attained_inPlace (h : b.Attained Video.Short) :
    b.video.InPlace ∧ ∀ cycles, Video.Short cycles → ∃ n,
      b.step cycles = b.during cycles n ∧ (b.step cycles).video.pending = false ∧
      ∀ k < n, (b.during cycles k).video.pending = true ∧
        ((b.during cycles k).video.mode, (b.during cycles (k + 1)).video.mode) ∈ Video.moves ∧
        ((b.during cycles k).video.ly + 1).toNat = (b.during cycles k).video.ly.toNat + 1 := by
  have placed := h.law placed_law
  refine ⟨inPlace_of_placed placed h.idle, fun cycles length => ?_⟩
  obtain ⟨n, stepped, idle, all⟩ := step_during b cycles
  refine ⟨n, stepped, idle, fun k hk => ?_⟩
  have due := all k hk
  have on : (b.during cycles k).video.lcdOn = true := (Bool.and_eq_true_iff.mp due).1
  have stage := (placed_law.during placed length k).on on
  obtain ⟨c, event, turn, after⟩ := advanceVideo_course due
  have mode : (b.during cycles (k + 1)).video.mode = c.mode := by
    rw [during_succ]
    exact congrArg Course.mode after
  refine ⟨due, ?_, Course.countLine_toNat stage.line_le⟩
  rw [mode]
  exact stage.turn_moves turn

/-- The screen goes off in the middle of a frame, and on again; then two frames pass at once. -/
theorem attained_inPlace_toggled :
    let b := ((((new .gbc).step 1000).write 0xFF40 0x11).write 0xFF40 0x91).step 140448
    b.Attained Video.Short ∧ b.video.InPlace ∧
      ∃ n, b.step 456 = b.during 456 n ∧ (b.step 456).video.pending = false ∧
        ∀ k < n, ((b.during 456 k).video.mode, (b.during 456 (k + 1)).video.mode) ∈ Video.moves := by
  have attained : (((((new .gbc).step 1000).write 0xFF40 0x11).write 0xFF40 0x91).step
      140448).Attained Video.Short :=
    .step (.write _ _ (.write _ _ (.step (.new .gbc) (by decide)))) (by decide)
  obtain ⟨inPlace, steps⟩ := attained_inPlace attained
  obtain ⟨n, stepped, idle, all⟩ := steps 456 (by decide)
  exact ⟨attained, inPlace, n, stepped, idle, fun k hk => (all k hk).2.1⟩

end Bus

end DotMatrix
