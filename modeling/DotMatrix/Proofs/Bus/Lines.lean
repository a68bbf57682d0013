import DotMatrix.Proofs.Bus.Carry
import DotMatrix.Proofs.Bus.Frame
import Mathlib.Algebra.GroupWithZero.Nat

/-!
# How soon lines end

With the screen on, the drawing of a line ends again and again, in whatever steps time passes. The
way to the next end is known at every stage of a frame: `wait` counts its cycles. A step of the
frame leaves the wait as it is, unless it ends a line; then the next end is at most the lines
without a picture away, 5016 cycles.

Results:
* `numbered_law`: power-up, time and writes keep the number of the line within that of its mode.
* `Numbered.turn_wait`: what a step of the frame does to the wait.
* `steps_wait`: what steps of any lengths do to it.
* **`le_lines`**: how many lines have ended at least, once so many cycles have passed.
-/

namespace DotMatrix

namespace Video.Course

/-- Lines are numbered up to 143 as long as they are visible, and from 144 to 153 below; the last
one reads as line 0 after a while. -/
structure Numbered (c : Course) : Prop where
  visible : c.mode ≠ vblankMode → c.ly.toNat ≤ 143
  blank : c.mode = vblankMode → c.ly = 0 ∨ 144 ≤ c.ly.toNat ∧ c.ly.toNat ≤ 153

/-- The cycles from the next step of the frame to the end of the drawing of a line. -/
def ahead (c : Course) : Nat :=
  if c.mode = scanMode then 172
  else if c.mode = hblankMode then if c.ly + 1 = 144 then 4812 else 252
  else if c.mode = vblankMode then
    if c.ly = 0 then 252 else if c.ly = 153 then 704 else (153 - c.ly.toNat) * 456 + 252
  else 0

/-- The cycles to the end of the drawing of a line. -/
def wait (c : Course) : Int :=
  c.nextCycles + c.ahead

variable {c c' : Course} {event : Option Event}

/-! ## The number of the line -/

theorem numbered_visible (mode : c.mode ≠ vblankMode) (line : c.ly.toNat ≤ 143) : c.Numbered :=
  ⟨fun _ => line, fun blank => absurd blank mode⟩

theorem numbered_blank (mode : c.mode = vblankMode)
    (line : c.ly = 0 ∨ 144 ≤ c.ly.toNat ∧ c.ly.toNat ≤ 153) : c.Numbered :=
  ⟨fun visible => absurd mode visible, fun _ => line⟩

theorem Numbered.line_le (h : c.Numbered) : c.ly.toNat ≤ 153 := by
  by_cases mode : c.mode = vblankMode
  · rcases h.blank mode with top | below
    · rw [top]
      decide
    · exact below.2
  · exact Nat.le_trans (h.visible mode) (by decide)

theorem Numbered.below (h : c.Numbered) (mode : c.mode = vblankMode) (line : c.ly ≠ 0) :
    144 ≤ c.ly.toNat ∧ c.ly.toNat ≤ 153 :=
  (h.blank mode).resolve_left line

theorem Numbered.turn (h : c.Numbered) (t : Turn c c' event) : c'.Numbered := by
  have next := countLine_toNat h.line_le
  have scans : scanMode ≠ vblankMode := by decide
  have draws : drawMode ≠ vblankMode := by decide
  have rests : hblankMode ≠ vblankMode := by decide
  cases t with
  | draw mode => exact numbered_visible draws (h.visible (mode ▸ scans))
  | hblank counted mode => exact numbered_visible rests (h.visible mode.2.1)
  | scan mode visible =>
    have line := h.visible (mode ▸ rests)
    have inside : c.countLine.ly.toNat ≠ 144 := fun last => visible (UInt8.toNat_inj.mp last)
    have line : c.countLine.ly.toNat ≤ 143 := by omega
    exact numbered_visible scans line
  | vblank mode ended =>
    have first : c.countLine.ly.toNat = 144 := congrArg UInt8.toNat ended
    have line : 144 ≤ c.countLine.ly.toNat ∧ c.countLine.ly.toNat ≤ 153 := by omega
    exact numbered_blank rfl (.inr line)
  | blank mode line inner =>
    have below := h.below mode line
    have inside : c.countLine.ly.toNat ≠ 154 := fun last => inner.2 (UInt8.toNat_inj.mp last)
    have line : 144 ≤ c.countLine.ly.toNat ∧ c.countLine.ly.toNat ≤ 153 := by omega
    exact numbered_blank mode (.inr line)
  | last mode line =>
    have last : c.countLine.ly.toNat = 153 := congrArg UInt8.toNat line
    have line : 144 ≤ c.countLine.ly.toNat ∧ c.countLine.ly.toNat ≤ 153 := by omega
    exact numbered_blank mode (.inr line)
  | wrap mode line => exact numbered_blank mode (.inl rfl)
  | top mode line => exact numbered_visible scans (line ▸ by decide)

theorem Numbered.written {addr : UInt16} {val : UInt8} (h : c.Numbered)
    (w : Written c addr val c') : c'.Numbered := by
  have scans : scanMode ≠ vblankMode := by decide
  have rests : hblankMode ≠ vblankMode := by decide
  cases w with
  | other => exact h
  | control | stat | compare => exact ⟨h.visible, h.blank⟩
  | off => exact numbered_visible rests (Nat.zero_le 143)
  | on => exact numbered_visible scans (Nat.zero_le 143)

theorem Numbered.tick (h : c.Numbered) (cycles : Nat) : (c.tick cycles).Numbered := by
  obtain ⟨rest, after⟩ := c.tick_eq cycles
  rw [after]
  exact ⟨h.visible, h.blank⟩

/-! ## The wait -/

theorem ahead_scan (mode : c.mode = scanMode) : c.ahead = 172 :=
  if_pos mode

theorem ahead_hblank (mode : c.mode = hblankMode) :
    c.ahead = if c.ly + 1 = 144 then 4812 else 252 := by
  simp only [ahead, mode]
  rfl

theorem ahead_vblank (mode : c.mode = vblankMode) :
    c.ahead =
      if c.ly = 0 then 252 else if c.ly = 153 then 704 else (153 - c.ly.toNat) * 456 + 252 := by
  simp only [ahead, mode]
  rfl

theorem ahead_top (mode : c.mode = vblankMode) (top : c.ly = 0) : c.ahead = 252 :=
  (ahead_vblank mode).trans (if_pos top)

theorem ahead_below {line : Nat} (mode : c.mode = vblankMode) (reads : c.ly.toNat = line)
    (first : 144 ≤ line) (last : line ≤ 152) : c.ahead = (153 - line) * 456 + 252 := by
  have top : c.ly ≠ 0 := fun top => absurd (top ▸ reads) (by change 0 ≠ line; omega)
  have wrap : c.ly ≠ 153 := fun wrap => absurd (wrap ▸ reads) (by change 153 ≠ line; omega)
  rw [ahead_vblank mode, if_neg top, if_neg wrap, reads]

theorem ahead_last (mode : c.mode = vblankMode) (line : c.ly = 153) : c.ahead = 704 := by
  rw [ahead_vblank mode, line]
  rfl

theorem ahead_draw (mode : c.mode ≠ hblankMode ∧ c.mode ≠ vblankMode ∧ c.mode ≠ scanMode) :
    c.ahead = 0 := by
  simp only [ahead, mode, if_false]

theorem ahead_hblank_le (mode : c.mode = hblankMode) : c.ahead ≤ 4812 := by
  rw [ahead_hblank mode]
  split <;> decide

/-- Nowhere is the end of a drawing further away than after the last visible line. -/
theorem Numbered.ahead_le (h : c.Numbered) : c.ahead ≤ 4812 := by
  unfold ahead
  split
  · decide
  split
  · split <;> decide
  split
  next mode =>
    split
    · decide
    next line =>
      have below := h.below mode line
      split <;> omega
  · decide

/-- **A step of the frame** leaves the wait as it is, unless it ends a line. -/
theorem Numbered.turn_wait (h : c.Numbered) (t : Turn c c' event) :
    c'.wait ≤ c.wait + 5016 * (event == some .hblank).toNat := by
  have next := countLine_toNat h.line_le
  have same {rest there : Nat} (rest_eq : c'.nextCycles = c.nextCycles + rest)
      (before : c.ahead = rest + there) (after : c'.ahead = there) :
      c'.wait ≤ c.wait + 5016 * (event == some .hblank).toNat := by
    unfold wait
    omega
  cases t with
  | draw mode => exact same rfl (ahead_scan mode) rfl
  | hblank counted mode =>
    have here := ahead_draw mode
    have there : ahead { c with
        mode := hblankMode, nextCycles := c.nextCycles + 204, windowLine := counted } ≤ 4812 :=
      ahead_hblank_le rfl
    change c.nextCycles + 204 + _ ≤ c.nextCycles + c.ahead + 5016 * 1
    omega
  | scan mode visible => exact same rfl ((ahead_hblank mode).trans (if_neg visible)) rfl
  | vblank mode ended =>
    have first : c.countLine.ly.toNat = 144 := congrArg UInt8.toNat ended
    have here : c.ahead = 456 + ((153 - 144) * 456 + 252) :=
      (ahead_hblank mode).trans (if_pos ended)
    exact same rfl here (ahead_below rfl first (by decide) (by decide))
  | blank mode line inner =>
    have below := h.below mode line
    have last : c.countLine.ly.toNat ≠ 153 := fun last => inner.1 (UInt8.toNat_inj.mp last)
    have wrap : c.countLine.ly.toNat ≠ 154 := fun wrap => inner.2 (UInt8.toNat_inj.mp wrap)
    have inside : c.ly.toNat + 1 ≤ 152 := by omega
    have lines : 153 - c.ly.toNat = 153 - (c.ly.toNat + 1) + 1 := by omega
    have stretch : c.ahead = 456 + ((153 - (c.ly.toNat + 1)) * 456 + 252) := by
      rw [ahead_below mode rfl below.1 (Nat.le_of_succ_le inside), lines]
      generalize 153 - (c.ly.toNat + 1) = left
      omega
    exact same rfl stretch (ahead_below mode next (Nat.le_succ_of_le below.1) inside)
  | last mode line =>
    have last : c.countLine.ly.toNat = 153 := congrArg UInt8.toNat line
    have here : c.ahead = (153 - 152) * 456 + 252 :=
      ahead_below mode (by omega) (by decide) (by decide)
    exact same rfl here (ahead_last mode line)
  | wrap mode line =>
    have wrap : c.countLine.ly.toNat = 154 := congrArg UInt8.toNat line
    have last : c.ly.toNat = 153 := by omega
    exact same rfl (ahead_last mode (UInt8.toNat_inj.mp last)) (ahead_top mode rfl)
  | top mode line => exact same rfl (ahead_top mode line) rfl

end Video.Course

namespace Bus

open Video (Course)

/-- Power-up, time and writes keep the number of the line within that of its mode. -/
theorem numbered_law : CourseLaw (fun _ => True) Course.Numbered where
  boot := Course.numbered_visible (by decide) (Nat.zero_le 143)
  tick _ _ h := h.tick _
  turn _ h t := ⟨(h.turn t).visible, (h.turn t).blank⟩
  written h w := h.written w

/-- Time leaves the screen on. -/
theorem on_law : TimeLaw (fun _ => True) fun c => c.lcdOn = true where
  tick {c n _} _ _ h := by
    obtain ⟨rest, after⟩ := c.tick_eq n
    rw [after]
    exact h
  turn _ h t := (Course.turn_lcdOn t).trans h

variable {b : Bus}

theorem advanceVideo_wait (numbered : b.video.course.Numbered) (due : b.video.pending = true) :
    b.advanceVideo.video.course.wait ≤ b.video.course.wait + 5016 * b.endsLine.toNat := by
  obtain ⟨c, turn, after⟩ := Video.Run.advance_turns (r := b.run) due
  have course : b.advanceVideo.video.course = c.updateStat :=
    (congrArg Prod.fst (advanceVideo_pace b)).trans after
  rw [course]
  have wait : c.updateStat.wait = c.wait := rfl
  rw [wait]
  exact numbered.turn_wait turn

theorem settle_wait (numbered : b.video.course.Numbered) :
    b.settle.video.course.wait ≤ b.video.course.wait + 5016 * b.settleLines := by
  fun_induction settleLines b with
  | case1 b due ih =>
    have first := advanceVideo_wait numbered due
    have rest := ih (numbered_law.advance numbered)
    rw [settle, dif_pos due]
    omega
  | case2 b idle =>
    rw [settle, dif_neg idle]
    omega

theorem ticked_wait (on : b.video.lcdOn = true) {cycles : Nat} (short : Video.Short cycles) :
    (b.ticked cycles).video.course.wait = b.video.course.wait - b.baseCycles cycles := by
  have on' : b.video.course.lcdOn = true := on
  rw [ticked_course, Course.tick, if_pos on', (short.mono (baseCycles_le b cycles)).signedCount]
  change b.video.course.nextCycles - _ + (b.video.course.ahead : Int) = _
  unfold Course.wait
  omega

theorem Attained.steps (h : b.Attained fun _ => True) (portions : List Nat) :
    (b.steps portions).Attained fun _ => True := by
  induction portions generalizing b with
  | nil => exact h
  | cons n ns ih => exact ih (.step h trivial)

theorem steps_on (on : b.video.lcdOn = true) (portions : List Nat) :
    (b.steps portions).video.lcdOn = true := by
  induction portions generalizing b with
  | nil => exact on
  | cons n ns ih =>
    have on' : (b.step n).video.lcdOn = true := on_law.step on trivial
    exact ih on'

/-- Time takes its cycles off the wait, and each line that ends puts back no more than 5016. -/
theorem steps_wait (numbered : b.video.course.Numbered) (on : b.video.lcdOn = true)
    {portions : List Nat} (short : ∀ n ∈ portions, Video.Short n) :
    (b.steps portions).video.course.wait + (portions.map b.baseCycles).sum ≤
      b.video.course.wait + 5016 * b.lines portions := by
  induction portions generalizing b with
  | nil => exact Int.le_refl _
  | cons n ns ih =>
    have numbered' : (b.ticked n).video.course.Numbered := numbered_law.during numbered trivial 0
    have ticked := ticked_wait on (short n List.mem_cons_self)
    have settled := settle_wait numbered'
    rw [← step_ticked] at settled
    have on' : (b.step n).video.lcdOn = true := on_law.step on trivial
    have rest := ih (numbered_law.step numbered trivial) on'
      fun m mem => short m (List.mem_cons_of_mem n mem)
    rw [step_baseCycles] at rest
    simp only [steps, lines, List.map_cons, List.sum_cons]
    omega

/-- **So many cycles, so many lines**: with the screen on, `n` lines have ended once the cycles up to
the next step of the frame have passed, and 5016 more for each of them. -/
theorem le_lines (h : b.Attained fun _ => True) (on : b.video.lcdOn = true) {portions : List Nat}
    (short : ∀ m ∈ portions, Video.Short m) {n : Nat}
    (enough : b.video.nextCycles + 5016 * n ≤ (portions.map b.baseCycles).sum) :
    n ≤ b.lines portions := by
  have numbered := h.law numbered_law
  have account := steps_wait numbered on short
  have on' : (b.steps portions).video.course.lcdOn = true := steps_on on portions
  have left : 0 < (b.steps portions).video.course.nextCycles := by
    simpa [Course.pending, on'] using (h.steps portions).idle
  have wait' : (b.steps portions).video.course.wait =
    (b.steps portions).video.course.nextCycles + (b.steps portions).video.course.ahead := rfl
  have ahead := numbered.ahead_le
  have wait : b.video.course.wait = b.video.nextCycles + b.video.course.ahead := rfl
  omega

end Bus

end DotMatrix
