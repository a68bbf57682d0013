import DotMatrix.Proofs.Bus.Course
import DotMatrix.Proofs.Video.Calendar

/-!
# The timeline of a frame

Time passes for the picture unit in portions: `elapse` gives it cycles and makes the steps of the
frame that are due, `feed` does so for a list of portions. A unit that has been given cycles is only
later, and a step that is due is the same step later (`advance_delay`); so portions can be passed
as one. One portion is followed along the calendar, from the end of a stretch to the next.

Results:
* `OnTime.turn`: a step of the frame, by stretch.
* `settle_delay`, **`feed_sum`**: portions may be passed as one.
* `settle_onTime`: catching up leads to the place where time has got to.
* **`feed_timeline`**: from the top of a frame on, unit and events are those of the calendar.
* `step_run`: a step of the bus passes the time in the same way.
-/

namespace DotMatrix

namespace Video

/-! ## From stretch to stretch -/

/-- The course of a frame is at a place, and so many cycles behind. -/
structure Course.OnTime (c : Course) (p : Place) (late : Nat) : Prop where
  on : c.lcdOn = true
  line : c.ly.toNat = p.ly
  mode : c.mode = p.mode
  rest : c.nextCycles = (p.rest : Int) - late

namespace Course

variable {c c' : Course} {p : Place} {late line rest : Nat} {mode : UInt8} {event : Option Event}
  {entry : Option (Event × UInt8)}

/-- The next stretch begins, with what there is to see at its place. -/
theorem OnTime.enter (h : c.OnTime p late) (due : p.rest ≤ late)
    (shows : p.next.Shows line mode rest entry) (t : Turn c c' event) (reads : c'.ly.toNat = line)
    (mode_eq : c'.mode = mode) (rest_eq : c'.nextCycles = c.nextCycles + rest)
    (event_eq : event.map (·, c'.ly) = entry) :
    c'.updateStat.OnTime p.next (late - p.rest) ∧ event.map (·, c'.ly) = p.next.event := by
  refine ⟨⟨(turn_lcdOn t).trans h.on, reads.trans shows.ly.symm, mode_eq.trans shows.mode.symm, ?_⟩,
    event_eq.trans shows.event.symm⟩
  have left := h.rest
  have stretch := shows.rest
  change c'.nextCycles = _
  omega

/-- **A step of the frame** leads from the end of a stretch to the beginning of the next, with the
event of that place. -/
theorem OnTime.turn (h : c.OnTime p late) (inFrame : p.InFrame) (due : p.rest ≤ late)
    (t : Turn c c' event) :
    c'.updateStat.OnTime p.next (late - p.rest) ∧ event.map (·, c'.ly) = p.next.event := by
  have below := inFrame.line
  have visible (line : p.line < 144) : c.ly.toNat = p.line := h.line.trans (Place.ly_visible line)
  have reads : c.ly.toNat = p.line ∨ c.ly.toNat = 0 := h.line ▸ Place.ly_cases p
  have counted : c.countLine.ly.toNat = c.ly.toNat + 1 := countLine_toNat (by omega)
  -- The mode tells the stretches of a visible line apart; below the visible lines LY does.
  cases t with
  | draw mode =>
    obtain ⟨line, dot⟩ := Place.mode_scan (h.mode.symm.trans mode)
    exact h.enter due (Place.next_scan line dot) (.draw mode) (visible line) rfl rfl rfl
  | hblank windowLine mode counts =>
    obtain ⟨line, dot⟩ := Place.mode_draw (h.mode ▸ mode)
    have byte : c.ly = UInt8.ofNat p.line := by rw [← visible line, UInt8.ofNat_toNat]
    exact h.enter due (Place.next_draw line dot) (.hblank windowLine mode counts) (visible line)
      rfl rfl (congrArg (fun ly => some (Event.hblank, ly)) byte)
  | scan mode inside =>
    obtain ⟨line, dot⟩ := Place.mode_hblank (h.mode.symm.trans mode)
    have next : c.countLine.ly.toNat = p.line + 1 := visible line ▸ counted
    have inner : p.line + 1 ≠ 144 := fun last => inside (UInt8.toNat_inj.mp (next.trans last))
    exact h.enter due (Place.next_hblank (by omega) dot) (.scan mode inside) next rfl rfl rfl
  | vblank mode ended =>
    obtain ⟨line, dot⟩ := Place.mode_hblank (h.mode.symm.trans mode)
    have first : c.countLine.ly.toNat = 144 := congrArg UInt8.toNat ended
    have line := visible line
    exact h.enter due (Place.next_frame (by omega) dot) (.vblank mode ended) first rfl rfl
      (congrArg (fun ly => some (Event.vblank, ly)) ended)
  | blank mode stands inner =>
    have below := Place.mode_vblank (h.mode.symm.trans mode)
    have stands' : c.ly.toNat ≠ 0 := fun top => stands (UInt8.toNat_inj.mp top)
    have next : c.countLine.ly.toNat = p.line + 1 := by omega
    have last : p.line + 1 ≠ 153 := fun last => inner.1 (UInt8.toNat_inj.mp (next.trans last))
    have wrap : p.line + 1 ≠ 154 := fun last => inner.2 (UInt8.toNat_inj.mp (next.trans last))
    exact h.enter due (Place.next_blank ⟨below, by omega⟩) (.blank mode stands inner) next mode rfl
      rfl
  | last mode line =>
    have below := Place.mode_vblank (h.mode.symm.trans mode)
    have last : c.countLine.ly.toNat = 153 := congrArg UInt8.toNat line
    exact h.enter due (Place.next_last (by omega)) (.last mode line) last mode rfl rfl
  | wrap mode line =>
    have below := Place.mode_vblank (h.mode.symm.trans mode)
    have wrap : c.countLine.ly.toNat = 154 := congrArg UInt8.toNat line
    have last : p.line = 153 := by omega
    have stands : p.ly ≠ 0 := by
      rw [← h.line]
      omega
    exact h.enter due (Place.next_wrap last (Place.ly_stands stands last)) (.wrap mode line) rfl mode
      rfl rfl
  | top mode line =>
    have below := Place.mode_vblank (h.mode.symm.trans mode)
    have top : c.ly.toNat = 0 := congrArg UInt8.toNat line
    obtain ⟨last, dot⟩ := Place.ly_wrapped below (h.line.symm.trans top)
    exact h.enter due (Place.next_top last dot) (.top mode line) top rfl rfl rfl

end Course

/-! ## A unit that is later -/

/-- Cycles pass, and the unit is so much later. -/
def delay (v : Video) (cycles : Nat) : Video :=
  { v with nextCycles := v.nextCycles - cycles }

theorem countWindow_delay (v : Video) (n : Nat) : (v.delay n).countWindow = v.countWindow.delay n := by
  rw [countWindow, countWindow, apply_ite (delay · n)]
  rfl

theorem paintLine_delay (v : Video) (n : Nat) : (v.delay n).paintLine = v.paintLine.delay n := rfl

theorem refreshColours_delay (v : Video) (n : Nat) :
    (v.delay n).refreshColours = v.refreshColours.delay n := by
  rw [refreshColours, refreshColours, apply_ite (delay · n)]
  rfl

theorem renderLine_delay (v : Video) (n : Nat) : (v.delay n).renderLine = v.renderLine.delay n := by
  rw [renderLine, renderLine, apply_ite (delay · n), refreshColours_delay, paintLine_delay,
    countWindow_delay, countWindow_delay]
  rfl

theorem enter_delay (v : Video) (n : Nat) (mode : UInt8) (cycles : Int) :
    (v.delay n).enter mode cycles = (v.enter mode cycles).delay n := by
  have sum : v.nextCycles - n + cycles = v.nextCycles + cycles - n := by omega
  simp only [enter, delay, sum]

theorem nextBlankLine_delay (v : Video) (n : Nat) :
    (v.delay n).nextBlankLine = v.nextBlankLine.delay n := by
  have sum (cycles : Int) : v.nextCycles - n + cycles = v.nextCycles + cycles - n := by omega
  simp only [nextBlankLine, delay, sum]
  split
  · rfl
  · split <;> rfl

namespace Run

/-- Cycles pass for the unit in use. -/
def delay (r : Run) (cycles : Nat) : Run :=
  r.update fun v => v.delay cycles

theorem nextLine_delay (r : Run) (n : Nat) :
    (r.delay n).nextLine = (r.nextLine.1.delay n, r.nextLine.2) := by
  unfold nextLine beginLine
  change (if (r.update countLine).video.ly == 144 then _ else _ : Run × Option Event) = _
  split
  · simp only [startVblank, enterVblank, delay, update]
    rw [← enter_delay]
    rfl
  · simp only [enterScan, delay, update]
    rw [← enter_delay]
    rfl

theorem turn_delay (r : Run) (n : Nat) : (r.delay n).turn = (r.turn.1.delay n, r.turn.2) := by
  unfold turn
  change (if r.video.mode == hblankMode then _ else if r.video.mode == vblankMode then
    if r.video.ly == 0 then _ else _ else if r.video.mode == scanMode then _ else _) = _
  split
  · exact nextLine_delay r n
  split
  · split
    · simp only [delay, update, enterScan, enter_delay]
    · simp only [delay, update, nextBlankLine_delay]
  split
  · simp only [delay, update, enterDraw, enter_delay]
  · simp only [delay, update, enterHblank, enter_delay, renderLine_delay]

theorem updateStat_delay (r : Run) (n : Nat) : (r.delay n).updateStat = r.updateStat.delay n := rfl

theorem pending_delay {r : Run} (due : r.video.pending = true) (n : Nat) :
    (r.delay n).video.pending = true := by
  simp only [pending, Bool.and_eq_true, decide_eq_true_eq] at due ⊢
  obtain ⟨on, rest⟩ := due
  refine ⟨on, ?_⟩
  change r.video.nextCycles - n ≤ 0
  omega

/-- A unit that is later makes the same step. -/
theorem advance_delay {r : Run} (due : r.video.pending = true) (n : Nat) :
    (r.delay n).advance = (r.advance.1.delay n, r.advance.2) := by
  unfold advance
  simp only [due, pending_delay due, if_true, turn_delay, updateStat_delay]

/-! ## Portions of time -/

/-- Makes every step of the frame that is due, and keeps the events, each with the line as it reads
then. -/
def settle (r : Run) : Run × List (Event × UInt8) :=
  if _ : r.video.pending = true then
    let event := r.advance.2.map (·, r.advance.1.video.ly)
    let rest := r.advance.1.settle
    (rest.1, event.toList ++ rest.2)
  else (r, [])
termination_by (1 - r.video.nextCycles).toNat
decreasing_by
  have due : r.video.pending = true := by assumption
  have later := advance_nextCycles r due
  have behind := nextCycles_of_pending due
  omega

theorem settle_due {r : Run} (due : r.video.pending = true) :
    r.settle = (r.advance.1.settle.1,
      (r.advance.2.map (·, r.advance.1.video.ly)).toList ++ r.advance.1.settle.2) := by
  rw [settle, dif_pos due]

theorem settle_idle {r : Run} (idle : r.video.pending = false) : r.settle = (r, []) := by
  rw [settle, dif_neg (by simp [idle])]

theorem settle_pending (r : Run) : r.settle.1.video.pending = false := by
  fun_induction settle r with
  | case1 r due _ rest ih => exact ih
  | case2 r idle => simpa using idle

/-- Steps that are due may be made before more time passes, or after. -/
theorem settle_delay (r : Run) (n : Nat) :
    (r.delay n).settle =
      ((r.settle.1.delay n).settle.1, r.settle.2 ++ (r.settle.1.delay n).settle.2) := by
  fun_induction settle r with
  | case1 r due event rest ih =>
    have line : (r.advance.1.delay n).video.ly = r.advance.1.video.ly := rfl
    rw [settle_due (pending_delay due n), advance_delay due, ih, line, List.append_assoc]
  | case2 r idle => rfl

/-- Time passes: the unit is given cycles, and makes the steps that are due. -/
def elapse (r : Run) (cycles : Nat) : Run × List (Event × UInt8) :=
  settle (r.update fun v => v.tick cycles)

/-- Time passes in portions. -/
def feed (r : Run) : List Nat → Run × List (Event × UInt8)
  | [] => (r, [])
  | n :: ns =>
    let first := r.elapse n
    let rest := first.1.feed ns
    (rest.1, first.2 ++ rest.2)

theorem update_tick {r : Run} (on : r.video.lcdOn = true) {n : Nat} (short : Short n) :
    r.update (fun v => v.tick n) = r.delay n := by
  simp only [update, delay, tick, Video.delay, on, if_true, short.signedCount]

theorem delay_delay (r : Run) (m n : Nat) : (r.delay m).delay n = r.delay (m + n) := by
  have sum : r.video.nextCycles - m - n = r.video.nextCycles - (m + n : Nat) := by omega
  simp only [delay, update, Video.delay, sum]

theorem settle_lcdOn (r : Run) : r.settle.1.video.lcdOn = r.video.lcdOn := by
  fun_induction settle r with
  | case1 r due event rest ih =>
    obtain ⟨c, turn, after⟩ := advance_turns due
    have switch : r.advance.1.video.lcdOn = r.video.lcdOn :=
      (congrArg Course.lcdOn after).trans (Course.turn_lcdOn turn)
    exact ih.trans switch
  | case2 r idle => rfl

/-- **Time passes as a whole** in whatever portions it passes. -/
theorem feed_sum {r : Run} (on : r.video.lcdOn = true) (idle : r.video.pending = false)
    {counts : List Nat} (short : ∀ n ∈ counts, Short n) :
    r.feed counts = (r.delay counts.sum).settle := by
  induction counts generalizing r with
  | nil =>
    have same : r.delay 0 = r := by
      simp only [delay, update, Video.delay, Nat.cast_zero, Int.sub_zero]
    rw [List.sum_nil, same, settle_idle idle]
    rfl
  | cons n ns ih =>
    have head := short n List.mem_cons_self
    have tail (m : Nat) (mem : m ∈ ns) := short m (List.mem_cons_of_mem n mem)
    have first : r.elapse n = (r.delay n).settle := by rw [elapse, update_tick on head]
    have on' : (r.delay n).settle.1.video.lcdOn = true := (settle_lcdOn _).trans on
    rw [feed, first, ih on' (settle_pending _) tail, List.sum_cons, ← delay_delay,
      settle_delay (r.delay n)]

/-! ## Time and place -/

/-- **Catching up** leads to the place where time has got to, with the events on the way. -/
theorem settle_onTime {r : Run} {t late : Nat} (h : r.video.course.OnTime (placeAt t) late) :
    r.settle.1.video.course.OnTime (placeAt (t + late)) 0 ∧ r.settle.2 = events (t + 1) late := by
  -- Each step of the frame is one stretch of the calendar: the time of the last step moves on to the
  -- end of the stretch, and what is still late gets shorter by its length.
  fun_induction settle r generalizing t late with
  | case1 r due event =>
    rename_i rest ih
    have left : r.video.nextCycles = ((placeAt t).rest : Int) - late := h.rest
    have behind := nextCycles_of_pending due
    have ended : (placeAt t).rest ≤ late := by omega
    obtain ⟨c, turn, after⟩ := advance_turns due
    obtain ⟨onTime, seen⟩ := h.turn (placeAt_inFrame t) ended turn
    rw [← after, ← placeAt_next] at onTime
    obtain ⟨there, log⟩ := ih onTime
    have time : t + (placeAt t).rest + (late - (placeAt t).rest) = t + late := by omega
    have line : r.advance.1.video.ly = c.ly := congrArg Course.ly after
    rw [time] at there
    refine ⟨there, ?_⟩
    rw [events_stretch ended, ← seen, ← log, ← line]
  | case2 r idle =>
    have left : r.video.nextCycles = ((placeAt t).rest : Int) - late := h.rest
    have on : r.video.lcdOn = true := h.on
    have ahead : 0 < r.video.nextCycles := by
      simpa [pending, on] using idle
    have inside : late < (placeAt t).rest := by omega
    obtain ⟨line, mode, rest⟩ := Place.within inside
    rw [placeAt_within inside]
    refine ⟨⟨on, h.line.trans line.symm, h.mode.trans mode.symm, ?_⟩, (events_quiet inside).symm⟩
    change r.video.nextCycles = _
    omega

/-- The units at the top of a frame: as the boot program leaves them, and as the switch of the screen
leaves them. -/
inductive Starts : Run → Prop where
  | boot (v : Video) (requests : UInt8) : Starts (v.boot.withRequests requests)
  | switch {r : Run} {val : UInt8} (off : r.video.lcdOn = false) (on : hasBit val 0x80 = true) :
      Starts (r.write 0xFF40 val)

theorem switchOn_course {r : Run} {val : UInt8} (off : r.video.lcdOn = false)
    (on : hasBit val 0x80 = true) :
    (r.write 0xFF40 val).video.course = r.video.course.switchOn val :=
  Written.course_on (write_written r 0xFF40 val) rfl off on

theorem Starts.onTime {r : Run} (h : r.Starts) : r.video.course.OnTime (placeAt 0) 0 := by
  cases h with
  | boot v requests =>
    have booted : (v.boot.withRequests requests).video.course = .booted := boot_course v
    rw [booted]
    exact ⟨by decide, rfl, rfl, rfl⟩
  | switch off on =>
    rw [switchOn_course off on]
    exact ⟨on, rfl, rfl, rfl⟩

theorem Starts.idle {r : Run} (h : r.Starts) : r.video.pending = false := by
  have rest : r.video.nextCycles = 80 := h.onTime.rest
  rw [pending, rest]
  exact Bool.and_false _

/-- Where portions of time lead from the top of a frame, and the events on the way. -/
theorem Starts.feed_onTime {r : Run} (h : r.Starts) {counts : List Nat}
    (short : ∀ n ∈ counts, Short n) :
    (r.feed counts).1.video.course.OnTime (placeAt counts.sum) 0 ∧
      (r.feed counts).2 = events 0 (counts.sum + 1) := by
  have top := h.onTime
  have late : (r.delay counts.sum).video.course.OnTime (placeAt 0) counts.sum := by
    refine ⟨top.on, top.line, top.mode, ?_⟩
    have rest := top.rest
    change r.video.course.nextCycles - _ = _
    omega
  obtain ⟨there, log⟩ := settle_onTime late
  have first : events 0 (counts.sum + 1) = events 1 counts.sum := by
    rw [Nat.add_comm, events_add]
    rfl
  rw [Nat.zero_add] at there
  rw [feed_sum top.on h.idle short, first]
  exact ⟨there, log⟩

/-- The unit at a time since its start, with the events since then. -/
structure Timeline (time : Nat) (r : Run) (log : List (Event × UInt8)) : Prop where
  on : r.video.lcdOn = true
  line : r.video.ly.toNat = (placeAt time).ly
  mode : r.video.mode = (placeAt time).mode
  next : ∃ rest : Nat, r.video.nextCycles = rest ∧ 0 < rest ∧ (placeAt (time + rest)).IsBoundary ∧
    ∀ k, 0 < k → k < rest → ¬ (placeAt (time + k)).IsBoundary
  vblanks : (log.map Prod.fst).count .vblank = Set.ncard {k : Nat | 70224 * k + 65664 ≤ time}
  hblanks : ∀ line < 144, log.count (.hblank, UInt8.ofNat line) =
    Set.ncard {k : Nat | 70224 * k + (456 * line + 252) ≤ time}
  visible : ∀ line, (Event.hblank, line) ∈ log → line < 144
  log_eq : log = events 0 (time + 1)

theorem Timeline.of_onTime {r : Run} {time : Nat} {log : List (Event × UInt8)}
    (h : r.video.course.OnTime (placeAt time) 0) (seen : log = events 0 (time + 1)) :
    Timeline time r log where
  on := h.on
  line := h.line
  mode := h.mode
  next := by
    refine ⟨(placeAt time).rest, ?_, (placeAt_inFrame time).rest_pos, ?_, fun k later inside => ?_⟩
    · exact h.rest.trans (Int.sub_zero _)
    · rw [placeAt_next]
      exact Place.next_isBoundary _
    · rw [placeAt_within inside]
      exact (Place.quiet_within later inside).1
  vblanks := seen ▸ count_vblank time
  hblanks line inside := seen ▸ count_hblank inside time
  visible line mem := by
    rw [seen, events, List.mem_filterMap] at mem
    obtain ⟨u, -, event⟩ := mem
    exact Place.event_visible event
  log_eq := seen

/-- **The timeline**: from the top of a frame on, as long as the screen stays on and no register is
written, the unit, the requests and the events depend on the time that has passed alone, and not on
the portions in which it passes; and they are those of the calendar. -/
theorem feed_timeline {r : Run} (start : r.Starts) {counts : List Nat}
    (short : ∀ n ∈ counts, Short n) :
    (∀ counts', (∀ n ∈ counts', Short n) → counts'.sum = counts.sum →
        r.feed counts' = r.feed counts) ∧
      Timeline counts.sum (r.feed counts).1 (r.feed counts).2 := by
  have on : r.video.lcdOn = true := start.onTime.on
  refine ⟨fun counts' short' sum => ?_, ?_⟩
  · rw [feed_sum on start.idle short, feed_sum on start.idle short', sum]
  · obtain ⟨there, log⟩ := start.feed_onTime short
    exact .of_onTime there log

/-- The screen goes on, and more than a frame passes in three portions: it is the third line. -/
theorem feed_timeline_portions :
    let r := ((unpowered .gbc).withRequests 0).write 0xFF40 0x80
    r.Starts ∧ (∀ n ∈ [1000, 70224, 3], Short n) ∧ r.feed [71227] = r.feed [1000, 70224, 3] ∧
      (r.feed [1000, 70224, 3]).1.video.ly.toNat = 2 ∧
      (r.feed [1000, 70224, 3]).1.video.mode = drawMode := by
  have start : Starts (((unpowered .gbc).withRequests 0).write 0xFF40 0x80) :=
    .switch (by decide) (by decide)
  have short : ∀ n ∈ [1000, 70224, 3], Short n := by decide
  obtain ⟨portions, timeline⟩ := feed_timeline start short
  exact ⟨start, short, portions [71227] (by decide) (by decide), timeline.line, timeline.mode⟩

end Run

/-! ## On the bus -/

/-- A step of the frame has no part in the block transfer. -/
theorem Run.advance_transfer (r : Run) : r.advance.1.video.transfer = r.video.transfer :=
  congrArg (fun backing => backing.2.2.2.1) (Run.advance_backing r)

end Video

namespace Bus

theorem onEvent_run {b : Bus} (alone : b.video.transfer.active = false)
    (event : Option Video.Event) : (b.onEvent event).run = b.run := by
  unfold onEvent
  split
  · rfl
  · unfold endLine
    rw [if_neg (by simp [alone])]
    rfl
  · rfl

/-- While no block transfer runs with the lines, a step of the frame on the bus is one of the picture
unit and nothing else. -/
theorem advanceVideo_run {b : Bus} (alone : b.video.transfer.active = false) :
    b.advanceVideo.run = b.run.advance.1 := by
  unfold advanceVideo
  refine onEvent_run ?_ _
  change b.run.advance.1.video.transfer.active = false
  rw [Video.Run.advance_transfer]
  exact alone

theorem settle_run {b : Bus} (alone : b.video.transfer.active = false) :
    b.settle.run = b.run.settle.1 := by
  fun_induction settle b with
  | case1 b due ih =>
    have step := advanceVideo_run alone
    have alone' : b.advanceVideo.video.transfer.active = false := by
      change b.advanceVideo.run.video.transfer.active = false
      rw [step, Video.Run.advance_transfer]
      exact alone
    have due' : b.run.video.pending = true := due
    rw [ih alone', step, Video.Run.settle_due due']
  | case2 b idle =>
    have idle' : b.run.video.pending = false := Bool.eq_false_iff.mpr idle
    rw [Video.Run.settle_idle idle']

/-- **A step of the bus** passes its cycles, at the base clock, for the picture unit. -/
theorem step_run {b : Bus} (alone : b.video.transfer.active = false) (cycles : Nat) :
    (b.step cycles).run = ((b.stepTimer cycles).run.elapse (b.baseCycles cycles)).1 := by
  refine settle_run ?_
  change ((b.stepTimer cycles).video.tick _).transfer.active = false
  rw [stepTimer_video]
  have kept (n : Nat) : (b.video.tick n).transfer = b.video.transfer := by
    unfold Video.tick
    split <;> rfl
  rw [kept]
  exact alone

end Bus

end DotMatrix
