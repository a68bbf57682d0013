import DotMatrix.Proofs.Bus.Carry
import DotMatrix.Proofs.Bus.Slots
import DotMatrix.Proofs.Sound.Steps
import DotMatrix.Proofs.Timer.Divider

/-!
# The pace of the sound sequencer

One bit of the divider paces the sound sequencer: bit 12, or bit 13 in double speed. Three things
move the divider: time, a write to DIV, and the change of speed. Each hands edges to the sound unit,
and these ought to be the falls of the selected bit. The change of speed selects the other bit first
and then looks at the divider that it clears, so it takes the fall of the wrong one.

Results:
* `settle_beside`, `step_sound`: after its edges, time passes for the sound unit.
* **`sequencer_iff`**: the sequencer makes a step at each fall of the selected bit, unless the speed
  changes and only one of the two bits is set.
* `sequencer_missed`: after power-up a change of speed misses the fall.
-/

namespace DotMatrix

namespace Bus

variable (b : Bus)

/-! ## The sound unit on the bus -/

theorem afterTimer_sound (r : Timer.Run) :
    (b.afterTimer r).sound = Sound.stepSequencer^[r.edges] b.sound := by
  rw [afterTimer_eq, ← Sound.stepSequencerMany_eq]

theorem afterTimer_timer (r : Timer.Run) : (b.afterTimer r).timer = r.timer := by
  rw [afterTimer_eq]

/-- The picture unit reaches neither the sound unit nor the timer. -/
theorem advanceVideo_beside :
    b.advanceVideo.sound = b.sound ∧ b.advanceVideo.timer = b.timer := by
  simp only [advanceVideo, onEvent]
  split
  · exact ⟨rfl, rfl⟩
  · simp only [endLine]
    split
    · obtain ⟨vram, -, filled⟩ := transferBlock_fills { b with
        video := (b.video.withRequests b.requests).advance.1.video
        requests := (b.video.withRequests b.requests).advance.1.requests }
      rw [filled]
      exact ⟨rfl, rfl⟩
    · exact ⟨rfl, rfl⟩
  · exact ⟨rfl, rfl⟩

theorem settle_beside : b.settle.sound = b.sound ∧ b.settle.timer = b.timer := by
  fun_induction settle b with
  | case1 b due ih =>
    obtain ⟨sound, timer⟩ := advanceVideo_beside b
    rwa [sound, timer] at ih
  | case2 b idle => exact ⟨rfl, rfl⟩

/-- Time passes for the sound unit after the edges that the timer hands it. -/
theorem step_sound (cycles : Nat) :
    (b.step cycles).sound = (b.stepTimer cycles).sound.step (b.baseCycles cycles) :=
  (settle_beside _).1

theorem step_timer (cycles : Nat) : (b.step cycles).timer = (b.stepTimer cycles).timer :=
  (settle_beside _).2

/-! ## What moves the divider -/

/-- What moves the divider: time, a write to DIV, and a STOP instruction. -/
inductive DividerUse
  | time (cycles : Nat)
  | clear (val : UInt8)
  | stop

/-- The bus afterwards. A STOP that is not armed does nothing. -/
def afterUse : DividerUse → Bus
  | .time cycles => b.step cycles
  | .clear val => b.write 0xFF04 val
  | .stop => if b.speedArmed then b.switchSpeed else b

/-- The steps of the sequencer that are made. -/
def sequencerSteps : DividerUse → Nat
  | .time cycles => ((b.timer.withRequests b.requests).step b.doubleSpeed cycles).edges
  | .clear val => ((b.timer.withRequests b.requests).write b.doubleSpeed 0xFF04 val).edges
  | .stop =>
    if b.speedArmed then ((b.timer.withRequests b.requests).resetDiv !b.doubleSpeed).edges else 0

/-- What else the sound unit does, after these steps. -/
def soundAfter (s : Sound) : DividerUse → Sound
  | .time cycles => s.step (b.baseCycles cycles)
  | .clear _ | .stop => s

/-- The bit of the divider that is selected at the present speed. -/
def paceBit : Bool :=
  b.timer.div.toNat.testBit (if b.doubleSpeed then 13 else 12)

/-- The values that it takes: after each cycle of some time, and after anything else. -/
def paceBits : DividerUse → List Bool
  | .time cycles => (List.range cycles).map fun i => (b.step (i + 1)).paceBit
  | .clear val => [(b.write 0xFF04 val).paceBit]
  | .stop => [(b.afterUse .stop).paceBit]

theorem paceBit_eq : b.paceBit = Timer.pace b.doubleSpeed b.timer.div := rfl

theorem clear_eq (val : UInt8) : b.write 0xFF04 val =
    b.afterTimer ((b.timer.withRequests b.requests).resetDiv b.doubleSpeed) := rfl

theorem clear_paceBit (val : UInt8) : (b.write 0xFF04 val).paceBit = false := by
  rw [paceBit_eq, clear_eq, afterTimer_timer, Timer.Run.resetDiv_div, Timer.pace_zero]

theorem switchSpeed_paceBit : b.switchSpeed.paceBit = false := by
  rw [paceBit_eq, switchSpeed, afterTimer_timer, Timer.Run.resetDiv_div, Timer.pace_zero]

theorem step_paceBit (cycles : Nat) :
    (b.step cycles).paceBit = Timer.pace b.doubleSpeed (b.timer.div + cycles.toUInt16) := by
  rw [paceBit_eq, step_doubleSpeed, step_timer, stepTimer, afterTimer_timer, Timer.Run.step_div]
  rfl

/-! ## Steps and falls -/

/-- The sound unit makes the steps that it is handed, whatever moves the divider. -/
theorem afterUse_sound (use : DividerUse) : (b.afterUse use).sound =
    b.soundAfter (Sound.stepSequencer^[b.sequencerSteps use] b.sound) use := by
  cases use with
  | time cycles =>
    rw [afterUse, step_sound, stepTimer, afterTimer_sound]
    rfl
  | clear val =>
    rw [afterUse, clear_eq, afterTimer_sound]
    rfl
  | stop =>
    have toggled : doubleSpeed { b with key1 := (b.key1 &&& 0x80) ^^^ 0x80 } = !b.doubleSpeed :=
      hasBit_toggle b.key1
    simp only [afterUse, sequencerSteps, soundAfter]
    split
    · rw [switchSpeed, afterTimer_sound, toggled]
    · rfl

/-- Time makes a step at each fall. -/
theorem time_falls (cycles : Nat) :
    b.sequencerSteps (.time cycles) = falls b.paceBit (b.paceBits (.time cycles)) := by
  simp only [sequencerSteps, paceBits, step_paceBit, Timer.Run.step_edges]
  exact Nat.zero_add _

/-- So does a write to DIV. -/
theorem clear_falls (val : UInt8) :
    b.sequencerSteps (.clear val) = falls b.paceBit (b.paceBits (.clear val)) := by
  rw [paceBits, clear_paceBit]
  exact (Timer.Run.resetDiv_edges b.doubleSpeed _).trans (Nat.zero_add _)

/-- The change of speed makes a step if the bit that it selects has been set. -/
theorem stop_steps (armed : b.speedArmed = true) :
    b.sequencerSteps .stop = falls (Timer.pace (!b.doubleSpeed) b.timer.div) [false] := by
  rw [sequencerSteps, if_pos armed, Timer.Run.resetDiv_edges]
  exact Nat.zero_add _

theorem stop_falls (armed : b.speedArmed = true) :
    falls b.paceBit (b.paceBits .stop) = falls (Timer.pace b.doubleSpeed b.timer.div) [false] := by
  rw [paceBits, afterUse, if_pos armed, switchSpeed_paceBit, paceBit_eq]

theorem falls_false_inj {before before' : Bool} :
    falls before [false] = falls before' [false] ↔ before = before' := by
  cases before <;> cases before' <;> decide

/-- Whatever moves the divider, the sound unit makes its steps of the sequencer and nothing more for
it; and these are as many as the selected bit falls, from its value before, unless the speed changes
and only one of the two bits is set. -/
theorem sequencer_iff (b : Bus) (use : DividerUse) :
    (b.afterUse use).sound =
        b.soundAfter (Sound.stepSequencer^[b.sequencerSteps use] b.sound) use ∧
      (b.sequencerSteps use = falls b.paceBit (b.paceBits use) ↔
        (use = .stop → b.speedArmed = true →
          b.timer.div.toNat.testBit 12 = b.timer.div.toNat.testBit 13)) := by
  refine ⟨afterUse_sound b use, ?_⟩
  cases use with
  | time cycles => exact iff_of_true (time_falls b cycles) fun other => DividerUse.noConfusion other
  | clear val => exact iff_of_true (clear_falls b val) fun other => DividerUse.noConfusion other
  | stop =>
    cases armed : b.speedArmed with
    | false =>
      have still : b.afterUse .stop = b := by rw [afterUse, armed, if_neg Bool.false_ne_true]
      have none : falls b.paceBit [b.paceBit] = 0 := by cases b.paceBit <;> rfl
      refine iff_of_true ?_ fun _ other => Bool.noConfusion other
      rw [sequencerSteps, armed, if_neg Bool.false_ne_true, paceBits, still, none]
    | true =>
      rw [stop_steps b armed, stop_falls b armed, falls_false_inj]
      simp only [forall_const]
      cases b.doubleSpeed
      · exact eq_comm
      · exact Iff.rfl

/-- After power-up bit 12 is set and bit 13 is not: the change of speed clears the divider, the
selected bit falls, and the sequencer stands still. -/
theorem sequencer_missed :
    let b := (Bus.new .gbc).write 0xFF4D 1
    b.Reachable ∧ b.speedArmed = true ∧ falls b.paceBit (b.paceBits .stop) = 1 ∧
      b.sequencerSteps .stop = 0 ∧ (b.afterUse .stop).sound.sequencer = 0 ∧
      b.sound.stepSequencer.sequencer = 1 := by
  intro b
  have key1 : b.key1 = 1 := rfl
  have colour : b.isColour = true := rfl
  have armed : b.speedArmed = true := by
    rw [speedArmed, colour, key1]
    decide
  have bits : b.timer.div = 0x1EA0 := rfl
  have slow : b.doubleSpeed = false := by
    rw [doubleSpeed, key1]
    decide
  have steps : b.sequencerSteps .stop = 0 := by
    rw [stop_steps b armed, bits, slow]
    decide
  refine ⟨(Reachable.new .gbc).write 0xFF4D 1, armed, ?_, steps, ?_, ?_⟩
  · rw [stop_falls b armed, bits, slow]
    decide
  · rw [afterUse_sound, steps]
    rfl
  · have sound : b.sound = (Sound.unpowered true).boot := rfl
    rw [sound]
    decide +kernel

end Bus

end DotMatrix
