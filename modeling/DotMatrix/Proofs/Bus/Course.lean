import DotMatrix.Proofs.Bus.Effects
import DotMatrix.Proofs.Video.Course
import Mathlib.Logic.Function.Iterate

/-!
# The course of a frame on the bus

Time, writes to three registers, and power-up have a part in the course of a frame; nothing else on
the bus does. `Attained` are the buses that come about in this way, whatever else happens to them
in between. A step of the bus makes the steps of the frame one after another: `during` counts them,
so that a law can be stated of every single one.

Results:
* `Paced`, **`write_paced`**: what a write does to the course and to the STAT request.
* `advanceVideo_course`, `advanceVideo_edge`: a step of the frame on the bus is one of the unit.
* **`step_during`**: a step of the bus makes finitely many steps of the frame, each of them due.
* `TimeLaw.during`, **`Attained.law`**: what time keeps holds at every single step of the frame, and
  what power-up, time and writes keep holds of every bus that is attained.
-/

namespace DotMatrix

namespace Bus

open Video (Course Written Turn)

/-- The picture unit in use, with the requests of the bus. -/
def run (b : Bus) : Video.Run :=
  b.video.withRequests b.requests

/-- The course of the frame, and the requests. -/
def pace (b : Bus) : Course × UInt8 :=
  (b.video.course, b.requests)

/-! ## Time -/

theorem transferBlock_pace (b : Bus) : b.transferBlock.pace = b.pace := by
  obtain ⟨vram, -, filled⟩ := transferBlock_fills b
  rw [filled]
  rfl

theorem countHblank_pace (b : Bus) : b.countHblank.pace = b.pace := rfl

theorem endLine_pace (b : Bus) : b.endLine.pace = b.pace := by
  unfold endLine
  rw [countHblank_pace]
  split
  · exact transferBlock_pace b
  · rfl

theorem onEvent_pace (b : Bus) (event : Option Video.Event) : (b.onEvent event).pace = b.pace := by
  unfold onEvent
  split
  · rfl
  · exact endLine_pace b
  · rfl

/-- What the bus does at a step of the frame has no part in the course. -/
theorem advanceVideo_pace (b : Bus) :
    b.advanceVideo.pace = (b.run.advance.1.video.course, b.run.advance.1.requests) := by
  unfold advanceVideo
  rw [onEvent_pace]
  rfl

/-- A step of the frame on the bus is one of the picture unit. -/
theorem advanceVideo_course {b : Bus} (due : b.video.pending = true) :
    ∃ c event, Turn b.video.course c event ∧ b.advanceVideo.video.course = c.updateStat := by
  obtain ⟨c, turn, after⟩ := Video.Run.advance_turns (r := b.run) due
  exact ⟨c, _, turn, (congrArg Prod.fst (advanceVideo_pace b)).trans after⟩

/-- On the bus too, a step of the frame requests the STAT interrupt at the edge. -/
theorem advanceVideo_edge {b : Bus} (line : b.video.statLine = b.video.course.statCondition) :
    b.run.Edge b.advanceVideo.run := by
  have edge := Video.Run.advance_edge (r := b.run) line
  obtain ⟨course, requests⟩ := Prod.ext_iff.mp (advanceVideo_pace b)
  have condition : b.advanceVideo.run.video.course = b.run.advance.1.video.course := course
  have request : b.advanceVideo.run.statRequested = b.run.advance.1.statRequested :=
    congrArg (hasBit · Interrupt.stat.mask) requests
  rw [Video.Run.Edge, condition, request]
  exact edge

theorem advanceVideo_idle {b : Bus} (idle : b.video.pending = false) : b.advanceVideo = b := by
  have same : (b.video.withRequests b.requests).advance = (b.run, none) :=
    Video.Run.advance_idle idle
  unfold advanceVideo
  rw [same]
  rfl

theorem afterTimer_video (b : Bus) (r : Timer.Run) : (b.afterTimer r).video = b.video := by
  rw [afterTimer_eq]

theorem stepTimer_video (b : Bus) (cycles : Nat) : (b.stepTimer cycles).video = b.video :=
  afterTimer_video _ _

/-- The bus when cycles have passed for the timer and the sound, and the picture unit has been given
them but has made none of the steps that have become due. -/
def ticked (b : Bus) (cycles : Nat) : Bus :=
  { b.stepTimer cycles with
    sound := (b.stepTimer cycles).sound.step (b.baseCycles cycles)
    video := (b.stepTimer cycles).video.tick (b.baseCycles cycles) }

/-- The bus in the course of a step, after `k` steps of the frame. -/
def during (b : Bus) (cycles k : Nat) : Bus :=
  advanceVideo^[k] (b.ticked cycles)

theorem during_succ (b : Bus) (cycles k : Nat) :
    b.during cycles (k + 1) = (b.during cycles k).advanceVideo :=
  Function.iterate_succ_apply' _ _ _

theorem ticked_course (b : Bus) (cycles : Nat) :
    (b.ticked cycles).video.course = b.video.course.tick (b.baseCycles cycles) := by
  change ((b.stepTimer cycles).video.tick _).course = _
  rw [Video.tick_course, stepTimer_video]

/-- The steps of the frame that are due come to an end. -/
theorem settle_iterate (b : Bus) :
    ∃ n, b.settle = advanceVideo^[n] b ∧ b.settle.video.pending = false ∧
      ∀ k < n, (advanceVideo^[k] b).video.pending = true := by
  fun_induction settle b with
  | case1 b due ih =>
    obtain ⟨n, settled, idle, all⟩ := ih
    refine ⟨n + 1, settled, idle, fun k hk => ?_⟩
    cases k with
    | zero => exact due
    | succ k => exact all k (Nat.lt_of_succ_lt_succ hk)
  | case2 b idle => exact ⟨0, rfl, by simpa using idle, fun k hk => absurd hk (Nat.not_lt_zero k)⟩

/-- Where nothing is due, a step is time for the devices and nothing else. -/
theorem step_quiet {b : Bus} {cycles : Nat} (idle : (b.ticked cycles).video.pending = false) :
    b.step cycles = b.ticked cycles := by
  change (b.ticked cycles).settle = b.ticked cycles
  rw [settle, dif_neg (by simp [idle])]

/-- A step of the bus makes the steps of the frame that are due, and no others. -/
theorem step_during (b : Bus) (cycles : Nat) :
    ∃ n, b.step cycles = b.during cycles n ∧ (b.step cycles).video.pending = false ∧
      ∀ k < n, (b.during cycles k).video.pending = true :=
  settle_iterate (b.ticked cycles)

theorem baseCycles_le (b : Bus) (cycles : Nat) : b.baseCycles cycles ≤ cycles := by
  unfold baseCycles
  split
  · exact Nat.div_le_self cycles 2
  · exact Nat.le_refl cycles

/-! ## Writes -/

/-- What a write may have to do with the picture unit: it goes to a register of the unit, or it
leaves the course alone, and the STAT request too unless it is to IF. -/
inductive Paced (b : Bus) (addr : UInt16) (val : UInt8) (b' : Bus) : Prop where
  | register (written : b'.run = b.run.write addr val)
  | elsewhere (addr_ne : addr ≠ 0xFF40 ∧ addr ≠ 0xFF41 ∧ addr ≠ 0xFF45)
      (course : b'.video.course = b.video.course)
      (request : addr ≠ 0xFF0F → b'.run.statRequested = b.run.statRequested)

theorem Paced.of_pace {b b' : Bus} {addr : UInt16} {val : UInt8}
    (addr_ne : addr ≠ 0xFF40 ∧ addr ≠ 0xFF41 ∧ addr ≠ 0xFF45) (h : b'.pace = b.pace) :
    Paced b addr val b' :=
  .elsewhere addr_ne (congrArg Prod.fst h) fun _ =>
    congrArg (fun pace : Course × UInt8 => hasBit pace.2 Interrupt.stat.mask) h

end Bus

/-- A timer requests its own interrupt alone. -/
theorem Timer.Run.count_requests (r : Timer.Run) :
    hasBit r.count.requests Interrupt.stat.mask = hasBit r.requests Interrupt.stat.mask := by
  unfold count
  split
  · exact Video.Run.raise_other (by decide) r.requests
  · rfl

theorem Timer.Run.resetDiv_requests (doubleSpeed : Bool) (r : Timer.Run) :
    hasBit (r.resetDiv doubleSpeed).requests Interrupt.stat.mask =
      hasBit r.requests Interrupt.stat.mask := by
  simp only [resetDiv]
  split
  · exact count_requests r
  · rfl

theorem Timer.Run.writeControl_requests (val : UInt8) (r : Timer.Run) :
    hasBit (r.writeControl val).requests Interrupt.stat.mask =
      hasBit r.requests Interrupt.stat.mask := by
  simp only [writeControl]
  split
  · exact count_requests _
  · rfl

theorem Timer.Run.write_requests (doubleSpeed : Bool) (addr : UInt16) (val : UInt8)
    (r : Timer.Run) :
    hasBit (r.write doubleSpeed addr val).requests Interrupt.stat.mask =
      hasBit r.requests Interrupt.stat.mask := by
  unfold write
  split
  · exact resetDiv_requests doubleSpeed r
  · rfl
  · rfl
  · exact writeControl_requests val r
  · rfl

/-- The link requests its own interrupt alone. -/
theorem Link.requestsAfter_requests (addr : UInt16) (val requests : UInt8) :
    hasBit (requestsAfter addr val requests) Interrupt.stat.mask =
      hasBit requests Interrupt.stat.mask := by
  unfold requestsAfter
  split
  · exact Video.Run.raise_other (by decide) requests
  · rfl

namespace Bus

open Video (Course Written Turn)

section Writes

variable (b : Bus)

theorem remap_pace : b.remap.pace = b.pace := by
  unfold remap
  rfl

theorem writeTransfer_pace (val : UInt8) : (b.writeTransfer val).pace = b.pace := by
  obtain ⟨stall, notices, vram, transfer, -, filled⟩ := writeTransfer_fills b val
  rw [filled]
  rfl

theorem fillObjects_pace (val : UInt8) : (b.fillObjects val).pace = b.pace := by
  simp only [fillObjects, pace, Video.course]

theorem writeTimer_paced {addr : UInt16}
    (addr_ne : addr ≠ 0xFF40 ∧ addr ≠ 0xFF41 ∧ addr ≠ 0xFF45) (val : UInt8) :
    b.Paced addr val (b.writeTimer addr val) := by
  have video : (b.writeTimer addr val).video = b.video := afterTimer_video _ _
  refine .elsewhere addr_ne (congrArg Video.course video) fun _ => ?_
  have requests : (b.writeTimer addr val).requests =
      ((b.timer.withRequests b.requests).write b.doubleSpeed addr val).requests := by
    rw [writeTimer, afterTimer_eq]
  change hasBit (b.writeTimer addr val).requests _ = _
  rw [requests]
  exact Timer.Run.write_requests _ _ _ _

theorem writeLcdc_run (val : UInt8) : (b.writeLcdc val).run = b.run.write 0xFF40 val := by
  unfold writeLcdc
  split <;> rfl

theorem write_control (val : UInt8) : b.write 0xFF40 val = b.writeLcdc val := by
  simp [write, writeIo]

theorem write_stat (val : UInt8) : b.write 0xFF41 val = b.writeVideo 0xFF41 val := by
  simp [write, writeIo]

theorem write_compare (val : UInt8) : b.write 0xFF45 val = b.writeVideo 0xFF45 val := by
  simp [write, writeIo]

/-- Away from the three registers, a write goes to another one of the picture unit, or leaves the
course alone. -/
theorem Wrote.paced {b b' : Bus} {addr : UInt16} {val : UInt8} (h : b.Wrote addr val b')
    (addr_ne : addr ≠ 0xFF40 ∧ addr ≠ 0xFF41 ∧ addr ≠ 0xFF45) : b.Paced addr val b' := by
  cases h with
  | nothing | vram | cartRam | wram | oam | hram | enables | joypad | sound | speed
  | undocumented => exact .of_pace addr_ne rfl
  | control | workBank => exact .of_pace addr_ne (remap_pace _)
  | link => exact .elsewhere addr_ne rfl fun _ => Link.requestsAfter_requests addr val b.requests
  | timer => exact writeTimer_paced b addr_ne val
  | requests here => exact .elsewhere addr_ne rfl fun other => absurd here other
  | picture | screenOff => exact .register rfl
  | objects => exact .of_pace addr_ne (fillObjects_pace b val)
  | videoBank => exact .register (by unfold remap; rfl)
  | transfer => exact .of_pace addr_ne (writeTransfer_pace b val)

/-- **A write** goes to a register of the picture unit, or leaves the course alone. -/
theorem write_paced (addr : UInt16) (val : UInt8) : b.Paced addr val (b.write addr val) := by
  by_cases control : addr = 0xFF40
  · subst control
    rw [write_control]
    exact .register (writeLcdc_run b val)
  by_cases stat : addr = 0xFF41
  · subst stat
    rw [write_stat]
    exact .register rfl
  by_cases compare : addr = 0xFF45
  · subst compare
    rw [write_compare]
    exact .register rfl
  exact (write_wrote b addr val).paced ⟨control, stat, compare⟩

/-- What a write on the bus does to the course. -/
theorem write_written (addr : UInt16) (val : UInt8) :
    Written b.video.course addr val (b.write addr val).video.course := by
  cases write_paced b addr val with
  | register written =>
    have video := congrArg (fun r => r.video.course) written
    change (b.write addr val).video.course = _ at video
    rw [video]
    exact Video.Run.write_written b.run addr val
  | elsewhere addr_ne course request =>
    rw [course]
    exact .other addr val addr_ne

/-- A write to any address but that of IF requests the STAT interrupt at the edge. -/
theorem write_edge {b : Bus} (line : b.video.statLine = b.video.course.statCondition)
    {addr : UInt16} (other : addr ≠ 0xFF0F) (val : UInt8) :
    b.run.Edge (b.write addr val).run := by
  cases write_paced b addr val with
  | register written =>
    rw [written]
    exact Video.Run.write_edge line addr val
  | elsewhere addr_ne course request =>
    exact .of_same (congrArg Course.statCondition course) (request other)

end Writes

/-! ## Every bus that is attained -/

/-- The buses that come about from power-up by writes, by steps of lengths that `allowed` admits, and
by whatever leaves the course of the frame alone. -/
inductive Attained (allowed : Nat → Prop) : Bus → Prop where
  | new (model : Model) : Attained allowed (Bus.new model)
  | write {b : Bus} (addr : UInt16) (val : UInt8) :
      Attained allowed b → Attained allowed (b.write addr val)
  | step {b : Bus} {cycles : Nat} :
      Attained allowed b → allowed cycles → Attained allowed (b.step cycles)
  | aside {b b' : Bus} :
      Attained allowed b → b'.video.course = b.video.course → Attained allowed b'

/-- A law of the course that time keeps. -/
structure TimeLaw (allowed : Nat → Prop) (P : Course → Prop) : Prop where
  tick : ∀ {c : Course} {n cycles : Nat}, allowed cycles → n ≤ cycles → P c → P (c.tick n)
  turn : ∀ {c c' : Course} {event : Option Video.Event},
    c.pending = true → P c → Turn c c' event → P c'.updateStat

/-- A law of the course that power-up establishes, and that time and writes keep. -/
structure CourseLaw (allowed : Nat → Prop) (P : Course → Prop) : Prop extends TimeLaw allowed P where
  boot : P .booted
  written : ∀ {c c' : Course} {addr : UInt16} {val : UInt8}, P c → Written c addr val c' → P c'

section Law

variable {allowed : Nat → Prop} {P : Course → Prop} {b : Bus}

/-- One step of the frame. -/
theorem TimeLaw.advance (law : TimeLaw allowed P) (h : P b.video.course) :
    P b.advanceVideo.video.course := by
  by_cases due : b.video.pending = true
  · obtain ⟨c, event, turn, after⟩ := advanceVideo_course due
    have pending : b.video.course.pending = true := due
    rw [after]
    exact law.turn pending h turn
  · rw [advanceVideo_idle (by simpa using due)]
    exact h

/-- Every step of the frame that a step of the bus makes. -/
theorem TimeLaw.during (law : TimeLaw allowed P) (h : P b.video.course) {cycles : Nat}
    (length : allowed cycles) (k : Nat) : P (b.during cycles k).video.course := by
  induction k with
  | zero =>
    change P (b.ticked cycles).video.course
    rw [ticked_course]
    exact law.tick length (baseCycles_le b cycles) h
  | succ k ih =>
    rw [during_succ]
    exact law.advance ih

theorem TimeLaw.step (law : TimeLaw allowed P) (h : P b.video.course) {cycles : Nat}
    (length : allowed cycles) : P (b.step cycles).video.course := by
  obtain ⟨n, stepped, -⟩ := step_during b cycles
  rw [stepped]
  exact law.during h length n

theorem new_course (model : Model) : (Bus.new model).video.course = .booted := rfl

/-- **What power-up, time and writes keep** holds of every bus that is attained. -/
theorem Attained.law (h : b.Attained allowed) (law : CourseLaw allowed P) : P b.video.course := by
  induction h with
  | new model =>
    rw [new_course]
    exact law.boot
  | write addr val _ ih => exact law.written ih (write_written _ addr val)
  | step _ length ih => exact law.step ih length
  | aside _ course ih =>
    rw [course]
    exact ih

end Law

end Bus

end DotMatrix
