import DotMatrix.Proofs.Bus.Course
import DotMatrix.Proofs.Bus.Slots

/-!
# The STAT interrupt at its edge

Four enable bits, the comparison with LYC, the mode and the screen switch have a part in the STAT
interrupt, and each of them changes in a place of its own. All the same the STAT line never lags
behind its condition, so that looking at the line is looking for an edge.

Results:
* `Reachable.attained`: every bus that can be reached is attained in the sense of `Attained`.
* `line_law`: power-up, time and writes keep the line at the value of its condition.
* **`attained_statEdge`**: on every bus that is attained, each single step of the frame and each
  write requests the interrupt exactly when the condition begins to hold.
-/

namespace DotMatrix

namespace Video.Course

/-- The STAT line has the value of its condition. -/
def InLine (c : Course) : Prop :=
  c.statLine = c.statCondition

/-- Looking at the line is enough. -/
theorem updateStat_inLine (c : Course) : c.updateStat.InLine :=
  c.updateStat_statCondition.symm

theorem InLine.written {c c' : Course} {addr : UInt16} {val : UInt8} (h : c.InLine)
    (w : Written c addr val c') : c'.InLine := by
  cases w with
  | other => exact h
  | control _ same => exact h.trans (statCondition_of_switch same).symm
  | off val before after =>
    have off : (c.switchOff val).lcdOn = false := after
    exact (statCondition_of_off off).symm
  | on | stat | compare => exact updateStat_inLine _

end Video.Course

namespace Bus

open Video (Course)

variable {allowed : Nat → Prop}

/-- Every bus that can be reached is attained: cartridges and changes of speed leave the course alone,
a reset is a power-up to it, and a snapshot brings the course of the bus it was taken of. -/
theorem Reachable.attained {b : Bus} (h : b.Reachable) : b.Attained fun _ => True := by
  induction h with
  | new model => exact .new model
  | write addr val _ ih => exact .write addr val ih
  | insert _ _ ih => exact .aside ih rfl
  | reset model _ _ => exact .aside (.new model) rfl
  | step cycles _ ih => exact .step ih trivial
  | @switchSpeed b _ ih =>
    have video : b.switchSpeed.video = b.video := afterTimer_video _ _
    exact .aside ih (congrArg Video.course video)
  | restore _ _ fits restored _ ihSaved =>
    obtain ⟨bus, joined, rfl⟩ := Snapshot.restore_ok fits restored
    obtain ⟨-, -, cart, -, rfl⟩ := Snapshot.joinBus_ok joined
    exact .aside ihSaved rfl

/-- Power-up, time and writes keep the STAT line at the value of its condition. -/
theorem line_law : CourseLaw allowed Course.InLine where
  boot := by
    unfold Course.InLine
    decide
  tick {c n _} _ _ h := by
    obtain ⟨rest, after⟩ := c.tick_eq n
    rw [after]
    exact h
  turn _ _ _ := Course.updateStat_inLine _
  written h w := h.written w

/-- **On every bus that is attained** the STAT line has the value of its condition, and so it does
before and after every single step of the frame that a step of the bus makes. Such a step requests
the STAT interrupt exactly when the condition begins to hold, and so does a write to any address but
that of the requests themselves. -/
theorem attained_statEdge {b : Bus} (h : b.Attained fun _ => True) :
    b.video.statLine = b.video.course.statCondition ∧
      (∀ cycles k,
        (b.during cycles k).video.statLine = (b.during cycles k).video.course.statCondition ∧
        (b.during cycles k).run.Edge (b.during cycles (k + 1)).run) ∧
      ∀ addr val, addr ≠ 0xFF0F →
        (b.write addr val).video.statLine = (b.write addr val).video.course.statCondition ∧
        b.run.Edge (b.write addr val).run := by
  have law : CourseLaw (fun _ => True) Course.InLine := line_law
  have line := h.law law
  refine ⟨line, fun cycles k => ?_, fun addr val other => ?_⟩
  · have inLine : (b.during cycles k).video.course.InLine := law.during line trivial k
    refine ⟨inLine, ?_⟩
    rw [during_succ]
    exact advanceVideo_edge inLine
  · exact ⟨line.written (write_written b addr val), write_edge line other val⟩

/-- With the objects' look-up as a source of the interrupt, the write that enables it is an edge. -/
theorem attained_statEdge_enabled :
    (new .dmg).Attained (fun _ => True) ∧ (new .dmg).run.statRequested = false ∧
      ((new .dmg).write 0xFF41 0x20).run.statRequested = true := by
  have attained : (new .dmg).Attained fun _ => True := .new .dmg
  obtain ⟨-, -, writes⟩ := attained_statEdge attained
  have edge := (writes 0xFF41 0x20 (by decide)).2
  have before : (new .dmg).run.statRequested = false := by decide
  have condition : (new .dmg).run.video.course.statCondition = false := by decide
  have after : ((new .dmg).write 0xFF41 0x20).run.video.course.statCondition = true := by
    rw [write_stat]
    decide
  rw [Video.Run.Edge, before, condition, after] at edge
  exact ⟨attained, before, edge⟩

end Bus

end DotMatrix
