import DotMatrix.Proofs.Bus.Timeline

/-!
# The line that compared equal

STAT shows whether the line and LYC are equal. The bit is stored, and it is brought up to date
wherever the line or LYC changes, with one exception: when the screen goes off the line becomes 0
without a comparison. From then on the bit answers for the line at which the screen went off, until
STAT or LYC is written or the screen goes on again.

Results:
* `agrees_law`: with the screen on, the bit is up to date.
* `OffSince`, `OffSince.stale`: since the screen went off, the bit is that of the line of then.
* `Attained.agrees_or_off`: on every bus that is attained the bit is up to date, or nothing has
  brought it up to date since the screen went off.
* **`coincidence_iff`**: the bit is right exactly when that line and line 0 answer the same.
* `coincidence_stale`: a bus on which it is wrong.
-/

namespace DotMatrix

namespace Video.Course

/-- The stored comparison is that of the line with LYC. -/
def Agrees (c : Course) : Prop :=
  c.coincidence = (c.ly == c.lyc)

variable {c c' : Course} {event : Option Event}

/-- A step of the frame that moves the line compares it. -/
theorem Agrees.turn (h : c.Agrees) (t : Turn c c' event) : c'.updateStat.Agrees := by
  cases t with
  | draw | hblank | top => exact h
  | scan | vblank | blank | last | wrap => rfl

theorem turn_lyc (t : Turn c c' event) : c'.lyc = c.lyc := by
  cases t <;> rfl

/-- While the screen is off no time passes. -/
theorem tick_of_off (off : c.lcdOn = false) (cycles : Nat) : c.tick cycles = c := by
  unfold tick
  rw [if_neg (by simp [off])]

end Video.Course

namespace Bus

open Video (Course Turn Written)

variable {allowed : Nat → Prop} {b : Bus} {line : UInt8}

/-! ## Time -/

/-- While the screen is on, time keeps the comparison up to date. -/
theorem agrees_law : TimeLaw allowed fun c => c.lcdOn = true ∧ c.Agrees where
  tick {c n _} _ _ h := by
    obtain ⟨rest, after⟩ := c.tick_eq n
    rw [after]
    exact h
  turn _ h t := ⟨(Course.turn_lcdOn t).trans h.1, h.2.turn t⟩

/-- Time has no part in LYC. -/
theorem lyc_law (lyc : UInt8) : TimeLaw allowed fun c => c.lyc = lyc where
  tick {c n _} _ _ h := by
    obtain ⟨rest, after⟩ := c.tick_eq n
    rw [after]
    exact h
  turn _ h t := (Course.turn_lyc t).trans h

/-- A step of the bus with the screen off leaves the course alone. -/
theorem step_of_off (off : b.video.course.lcdOn = false) (cycles : Nat) :
    (b.step cycles).video.course = b.video.course := by
  have ticked : (b.ticked cycles).video.course = b.video.course := by
    rw [ticked_course, Course.tick_of_off off]
  have idle : (b.ticked cycles).video.course.pending = false := by
    rw [ticked, Course.pending, off, Bool.false_and]
  obtain ⟨n, stepped, -, due⟩ := step_during b cycles
  cases n with
  | zero =>
    rw [stepped]
    exact ticked
  | succ n => exact absurd ((due 0 (Nat.succ_pos n)).symm.trans idle) (by decide)

/-! ## Since the screen went off -/

/-- The screen went off at line `line`, and nothing has compared the line since: STAT and LYC have not
been written, and the screen has not gone on. -/
inductive OffSince (line : UInt8) : Bus → Prop where
  | off {b : Bus} {val : UInt8} : b.Attained (fun _ => True) → b.video.lcdOn = true →
      hasBit val 0x80 = false → b.video.ly = line → OffSince line (b.write 0xFF40 val)
  | write {b : Bus} (addr : UInt16) (val : UInt8) : OffSince line b → addr ≠ 0xFF41 → addr ≠ 0xFF45 →
      (addr = 0xFF40 → hasBit val 0x80 = false) → OffSince line (b.write addr val)
  | step {b : Bus} (cycles : Nat) : OffSince line b → OffSince line (b.step cycles)
  | aside {b b' : Bus} : OffSince line b → b'.video.course = b.video.course → OffSince line b'

/-- A write that compares nothing, with the screen off, has no part in the course but for LCDC. -/
theorem written_of_off {c c' : Course} {addr : UInt16} {val : UInt8} (w : Written c addr val c')
    (off : c.lcdOn = false) (stat : addr ≠ 0xFF41) (compare : addr ≠ 0xFF45)
    (stays : addr = 0xFF40 → hasBit val 0x80 = false) :
    c'.lcdOn = false ∧ c'.coincidence = c.coincidence ∧ c'.lyc = c.lyc := by
  cases w with
  | other => exact ⟨off, rfl, rfl⟩
  | control _ same => exact ⟨stays rfl, rfl, rfl⟩
  | off _ before => exact absurd (before.symm.trans off) (by decide)
  | on _ before after => exact absurd (after.symm.trans (stays rfl)) (by decide)
  | stat => exact absurd rfl stat
  | compare => exact absurd rfl compare

theorem OffSince.lcdOn (h : OffSince line b) : b.video.course.lcdOn = false := by
  induction h with
  | @off b val _ before after _ =>
    rw [(write_written b 0xFF40 val).course_off rfl before after]
    exact after
  | write addr val _ stat compare stays ih =>
    exact (written_of_off (write_written _ addr val) ih stat compare stays).1
  | step cycles _ ih => rwa [step_of_off ih]
  | aside _ course ih => rwa [course]

/-- What a write leaves of a comparison that is up to date, or of the time since the screen went
off. -/
theorem write_agrees_or_off (attained : b.Attained fun _ => True) (addr : UInt16) (val : UInt8)
    (h : b.video.course.Agrees ∨ ∃ line, OffSince line b) :
    (b.write addr val).video.course.Agrees ∨ ∃ line, OffSince line (b.write addr val) := by
  -- Only the switch of the screen to off moves the line without a comparison.
  have w := write_written b addr val
  generalize after : (b.write addr val).video.course = c' at w ⊢
  cases w with
  | other _ _ elsewhere =>
    exact h.imp_right fun ⟨line, off⟩ =>
      ⟨line, off.write addr val elsewhere.2.1 elsewhere.2.2 fun control =>
        absurd control elsewhere.1⟩
  | control _ same =>
    exact h.imp_right fun ⟨line, off⟩ =>
      ⟨line, off.write _ val (by decide) (by decide) fun _ => same.trans off.lcdOn⟩
  | off _ before goes => exact .inr ⟨b.video.ly, .off attained before goes rfl⟩
  | on | stat | compare => exact .inl rfl

/-- **On every bus that is attained** the comparison is up to date, or nothing has brought it up to
date since the screen went off. -/
theorem Attained.agrees_or_off (h : b.Attained fun _ => True) :
    b.video.course.Agrees ∨ ∃ line, OffSince line b := by
  induction h with
  | new model => exact .inl rfl
  | write addr val attained ih => exact write_agrees_or_off attained addr val ih
  | @step b cycles _ _ ih =>
    rcases ih with agrees | ⟨line, off⟩
    · by_cases on : b.video.course.lcdOn = true
      · have law : TimeLaw (fun _ => True) fun c => c.lcdOn = true ∧ c.Agrees := agrees_law
        exact .inl (law.step ⟨on, agrees⟩ trivial).2
      · rw [step_of_off (by simpa using on)]
        exact .inl agrees
    · exact .inr ⟨line, off.step cycles⟩
  | aside _ course ih =>
    rw [course]
    exact ih.imp_right fun ⟨line, off⟩ => ⟨line, off.aside course⟩

/-- **Since the screen went off** the comparison is that of the line of then. -/
theorem OffSince.stale (h : OffSince line b) :
    b.video.course.coincidence = (line == b.video.course.lyc) := by
  induction h with
  | @off b val attained before after at_line =>
    rw [(write_written b 0xFF40 val).course_off rfl before after]
    rcases attained.agrees_or_off with agrees | ⟨line, off⟩
    · exact at_line ▸ agrees
    · exact absurd (off.lcdOn.symm.trans before) (by decide)
  | write addr val off stat compare stays ih =>
    obtain ⟨-, coincidence, lyc⟩ :=
      written_of_off (write_written _ addr val) off.lcdOn stat compare stays
    rw [coincidence, lyc]
    exact ih
  | step cycles off ih => rwa [step_of_off off.lcdOn]
  | aside _ course ih => rwa [course]

/-! ## What the processor reads -/

/-- With the screen off the line is 0. -/
theorem top_law : CourseLaw allowed fun c => c.lcdOn = false → c.ly = 0 where
  boot off := absurd off (by decide)
  tick {c n _} _ _ h := by
    obtain ⟨rest, after⟩ := c.tick_eq n
    rw [after]
    exact h
  turn due _ t off := by
    have on := (Bool.and_eq_true_iff.mp due).1
    exact absurd ((Course.turn_lcdOn t).trans on |>.symm.trans off) (by decide)
  written h w off := by
    cases w with
    | other => exact h off
    | control _ same => exact h (same.symm.trans off)
    | off | on => rfl
    | stat | compare => exact h off

/-- The number of a mode has two bits. -/
theorem mode_law : CourseLaw allowed fun c => hasBit c.mode 0x04 = false where
  boot := by decide
  tick {c n _} _ _ h := by
    obtain ⟨rest, after⟩ := c.tick_eq n
    rw [after]
    exact h
  turn _ h t := by
    cases t with
    | draw => exact (by decide : hasBit Video.drawMode 0x04 = false)
    | hblank => exact (by decide : hasBit Video.hblankMode 0x04 = false)
    | scan | top => exact (by decide : hasBit Video.scanMode 0x04 = false)
    | vblank => exact (by decide : hasBit Video.vblankMode 0x04 = false)
    | blank | last | wrap => exact h
  written h w := by
    cases w with
    | other | control | stat | compare => exact h
    | off => exact (by decide : hasBit Video.hblankMode 0x04 = false)
    | on => exact (by decide : hasBit Video.scanMode 0x04 = false)

/-- STAT shows the comparison. -/
theorem readStat_coincidence {v : Video} (mode : hasBit v.mode 0x04 = false) :
    hasBit v.readStat 0x04 = v.coincidence := by
  have sources : hasBit (v.stat &&& 0x78) 0x04 = false := by
    have none : v.stat &&& 0x78 &&& 0x04 = 0 := by
      rw [UInt8.and_assoc]
      exact UInt8.and_zero
    rw [hasBit, none]
    decide
  have shown : hasBit (if v.lcdOn then v.mode else Video.hblankMode) 0x04 = false := by
    split
    · exact mode
    · decide
  have flag : hasBit (if v.coincidence then 0x04 else 0) 0x04 = v.coincidence := by
    cases v.coincidence <;> decide
  have unused : hasBit 0x80 0x04 = false := by decide
  simp only [Video.readStat, hasBit_or, unused, sources, flag, shown, Bool.false_or, Bool.or_false]

theorem read_stat (b : Bus) : b.read 0xFF41 = b.video.readStat := by
  simp [read, readIo, Video.read]

theorem read_line (b : Bus) : b.read 0xFF44 = b.video.ly := by
  simp [read, readIo, Video.read]

theorem read_compare (b : Bus) : b.read 0xFF45 = b.video.lyc := by
  simp [read, readIo, Video.read]

/-- **The bit of STAT is right** exactly when, if nothing has compared the line since the screen went
off, the line of then and line 0 answer the same. -/
theorem coincidence_iff (h : b.Attained fun _ => True) :
    (hasBit (b.read 0xFF41) 0x04 = true ↔ b.read 0xFF44 = b.read 0xFF45) ↔
      ∀ line, OffSince line b → (line = b.read 0xFF45 ↔ 0 = b.read 0xFF45) := by
  have law : CourseLaw (fun _ => True) fun c => hasBit c.mode 0x04 = false := mode_law
  rw [read_stat, readStat_coincidence (h.law law), read_line, read_compare]
  constructor
  · intro right line off
    have top : b.video.ly = 0 := h.law top_law off.lcdOn
    have stale : b.video.coincidence = (line == b.video.lyc) := off.stale
    rwa [stale, beq_iff_eq, top] at right
  · intro same
    rcases h.agrees_or_off with agrees | ⟨line, off⟩
    · have agrees : b.video.coincidence = (b.video.ly == b.video.lyc) := agrees
      rw [agrees, beq_iff_eq]
    · have top : b.video.ly = 0 := h.law top_law off.lcdOn
      have stale : b.video.coincidence = (line == b.video.lyc) := off.stale
      rw [stale, beq_iff_eq, top]
      exact same line off

/-- The screen goes off on the first line. -/
theorem coincidence_iff_top :
    let b := (new .dmg).write 0xFF40 0x11
    b.Attained (fun _ => True) ∧ OffSince 0 b ∧
      (hasBit (b.read 0xFF41) 0x04 = true ↔ b.read 0xFF44 = b.read 0xFF45) := by
  have attained : ((new .dmg).write 0xFF40 0x11).Attained fun _ => True := .write _ _ (.new .dmg)
  have off : OffSince 0 ((new .dmg).write 0xFF40 0x11) := .off (.new .dmg) (by decide) (by decide) rfl
  have course := (write_written (new .dmg) 0xFF40 0x11).course_off rfl (by decide) (by decide)
  have lyc : ((new .dmg).write 0xFF40 0x11).video.course.lyc = 0 := congrArg Course.lyc course
  refine ⟨attained, off, (coincidence_iff attained).mpr fun line off' => ?_⟩
  have answer : (line == (0 : UInt8)) = true := by
    rw [← lyc, ← off'.stale, off.stale, lyc]
    decide
  have line_eq : line = 0 := beq_iff_eq.mp answer
  rw [line_eq]

/-- After a line of 456 cycles the next one is shown. -/
theorem step_line :
    ((new .dmg).step 456).video.lcdOn = true ∧ ((new .dmg).step 456).video.ly = 1 := by
  have run := step_run (b := new .dmg) rfl 456
  have timer : ((new .dmg).stepTimer 456).run =
      (new .dmg).video.withRequests ((new .dmg).stepTimer 456).requests := by
    rw [Bus.run, stepTimer_video]
  have start : ((new .dmg).stepTimer 456).run.Starts := timer ▸ .boot _ _
  have short : ∀ n ∈ [456], Video.Short n := by decide
  have onTime := (start.feed_onTime short).1
  have course : ((new .dmg).step 456).video.course.OnTime (Video.placeAt 456) 0 :=
    (congrArg (fun r => Course.OnTime r.video.course (Video.placeAt 456) 0) run).mpr onTime
  exact ⟨course.on, UInt8.toNat_inj.mp course.line⟩

/-- The screen goes off on the second line: line 0 is shown, which is the one to compare with, and
the bit says otherwise. -/
theorem coincidence_stale :
    let b := ((new .dmg).step 456).write 0xFF40 0x11
    b.Attained (fun _ => True) ∧ b.read 0xFF44 = b.read 0xFF45 ∧
      hasBit (b.read 0xFF41) 0x04 = false := by
  obtain ⟨on, line⟩ := step_line
  have attained : ((new .dmg).step 456).Attained fun _ => True := .step (.new .dmg) trivial
  have off : OffSince 1 (((new .dmg).step 456).write 0xFF40 0x11) :=
    .off attained on (by decide) line
  have attained : (((new .dmg).step 456).write 0xFF40 0x11).Attained fun _ => True :=
    .write _ _ attained
  have course := (write_written ((new .dmg).step 456) 0xFF40 0x11).course_off rfl on (by decide)
  have law : TimeLaw (fun _ => True) fun c => c.lyc = 0 := lyc_law 0
  have kept : ((new .dmg).step 456).video.course.lyc = 0 := law.step rfl trivial
  have lyc : (((new .dmg).step 456).write 0xFF40 0x11).video.course.lyc = 0 :=
    (congrArg Course.lyc course).trans kept
  have top : (((new .dmg).step 456).write 0xFF40 0x11).video.course.ly = 0 :=
    congrArg Course.ly course
  have modes : CourseLaw (fun _ => True) fun c => hasBit c.mode 0x04 = false := mode_law
  refine ⟨attained, ?_, ?_⟩
  · rw [read_line, read_compare]
    exact top.trans lyc.symm
  · rw [read_stat, readStat_coincidence (attained.law modes)]
    have stale := off.stale
    rw [lyc] at stale
    exact stale

end Bus

end DotMatrix
