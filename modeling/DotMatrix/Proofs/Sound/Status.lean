import DotMatrix.Proofs.Sound.Turn

/-!
# The status bits

The status bits of the sound unit say which channels sound. A channel sounds only with power and with
its converter on, and it takes a trigger to make it sound.

Results:
* `boot_voice`, `unpowered_voice`: the states to start from.
* `Turn.allowed`, `Turn.raised`: what one event does to a status bit.
* `play_raised`: the same of many events.
* **`status_bits`**: the status bits of a reachable state.
-/

namespace DotMatrix

/-- A voice sounds only with power and a converter. -/
def Voice.Allowed (v : Voice) : Prop :=
  v.on = true → v.power = true ∧ v.converter = true

theorem Voice.Allowed.of_held {v v' : Voice} (held : v.Held v') (h : v.Allowed) : v'.Allowed := by
  rcases held with rfl | rfl
  · exact h
  · exact fun on => absurd on Bool.false_ne_true

theorem Voice.Allowed.clocked {v : Voice} (h : v.Allowed) : v.clocked.Allowed := by
  unfold Voice.clocked
  split
  · exact fun on => h (Bool.and_eq_true_iff.mp on).1
  · exact h

/-- A clock starts no note. -/
theorem Voice.clocked_off {v : Voice} (off : v.on = false) : v.clocked.on = false := by
  unfold Voice.clocked
  split
  · rw [off, Bool.false_and]
  · exact off

theorem Voice.Held.off {v v' : Voice} (held : v.Held v') (off : v.on = false) : v'.on = false := by
  rcases held with rfl | rfl
  · exact off
  · rfl

namespace Sound

variable {s : Sound} {e : Event} {ch : Channel} {v v' : Voice}

/-! ## One event -/

theorem Turn.allowed (turn : Turn e ch v v') (h : v.Allowed) : v'.Allowed := by
  cases turn with
  | kept => exact h
  | stepped _ held => exact held.elim (h.of_held ·) (h.clocked.of_held ·)
  | loaded => exact h
  | switched converter =>
    intro on
    obtain ⟨on, converter⟩ := Bool.and_eq_true_iff.mp on
    exact ⟨(h on).1, converter⟩
  | counted => exact h
  | extra => exact Voice.Allowed.clocked (v := { v with counts := true }) h
  | triggered _ power allowed => exact fun on => ⟨power, allowed on⟩
  | unpowered => exact fun on => absurd on Bool.false_ne_true
  | powered => exact fun on => ⟨rfl, (h on).2⟩

/-- A status bit goes on by a trigger of the channel, with power. -/
theorem Turn.raised (turn : Turn e ch v v') (off : v.on = false) (on : v'.on = true) :
    e.triggers ch = true ∧ v.power = true := by
  have raised {w : Voice} (on : w.on = true) (off : w.on = false) :
      e.triggers ch = true ∧ v.power = true := absurd on (Bool.eq_false_iff.mp off)
  cases turn with
  | triggered trigger power => exact ⟨trigger, power⟩
  | kept => exact raised on off
  | stepped _ held =>
    exact held.elim (fun held => raised on (held.off off))
      (fun held => raised on (held.off (Voice.clocked_off off)))
  | loaded => exact raised (w := v) on off
  | switched => exact raised (w := v) (Bool.and_eq_true_iff.mp on).1 off
  | counted => exact raised (w := v) on off
  | extra => exact raised on (Voice.clocked_off (v := { v with counts := true }) off)
  | unpowered => exact raised on rfl
  | powered => exact raised (w := v) on off

/-! ## Many events -/

/-- A channel that is off and sounds after some events has been triggered on the way. -/
theorem play_raised (placed : s.Placed) (events : List Event) (off : s.channelOn ch = false)
    (on : (s.play events).channelOn ch = true) : ∃ before e rest, events = before ++ e :: rest ∧
      (s.play before).channelOn ch = false ∧ (s.play before).enabled = true ∧
        e.triggers ch = true := by
  induction events generalizing s with
  | nil => exact absurd on (Bool.eq_false_iff.mp off)
  | cons e rest ih =>
    cases next : (s.act e).channelOn ch with
    | true =>
      obtain ⟨trigger, power⟩ := (act_turn placed e).raised off next
      exact ⟨[], e, rest, rfl, off, power, trigger⟩
    | false =>
      obtain ⟨before, e', rest', rfl, still⟩ := ih (act_placed placed e) next on
      exact ⟨e :: before, e', rest', rfl, still⟩

/-! ## Reachable states -/

/-- The states of a sound unit: it is made without power or left behind by the boot program, and then
things happen to it. -/
inductive Reachable : Sound → Prop
  | unpowered (colour : Bool) : Reachable (unpowered colour)
  | boot (s : Sound) : Reachable s.boot
  | act {s : Sound} (h : Reachable s) (e : Event) : Reachable (s.act e)

theorem unpowered_voice (colour : Bool) (ch : Channel) :
    (unpowered colour).voice ch = .silent := by
  cases colour <;> cases ch <;> decide

theorem boot_reg (s : Sound) {r : Reg} (low : r.val < 0x20) :
    s.boot.reg r = bootRegs.getD r.val 0 := by
  simp [reg, boot, low]

/-- After the boot program the first channel sounds. No length has been loaded. -/
theorem boot_voice (s : Sound) (ch : Channel) : s.boot.voice ch =
    { power := true, on := decide (ch = .one), converter := decide (ch = .one), counts := false
      length := 0 } := by
  have status : s.boot.reg nr52 = 0xF1 := boot_reg s (by decide)
  have converter : s.boot.reg (converterReg ch) = bootRegs.getD (converterReg ch).val 0 :=
    boot_reg s (by cases ch <;> decide)
  have control : s.boot.reg (controlReg ch) = 0xBF :=
    (boot_reg s (by cases ch <;> decide)).trans (by cases ch <;> rfl)
  rw [voice, enabled, channelOn, converterOn, lengthEnabled, status, converter, control]
  cases ch <;> rfl

theorem Reachable.placed (h : s.Reachable) : s.Placed := by
  induction h with
  | unpowered | boot => exact ⟨(by decide : (0 : UInt8) < 8), (by decide : (0 : UInt8) < 32)⟩
  | act _ e ih => exact act_placed ih e

theorem Reachable.allowed (h : s.Reachable) (ch : Channel) : (s.voice ch).Allowed := by
  induction h with
  | unpowered colour =>
    rw [unpowered_voice]
    exact fun on => absurd on Bool.false_ne_true
  | boot s =>
    rw [boot_voice]
    exact fun on => ⟨rfl, on⟩
  | act h e ih => exact (act_turn h.placed e).allowed ih

/-- **The status bits.** A channel sounds only with its converter on, and none does without power.
Whatever happens next, the bit of a channel goes on only by a trigger with power, and so a channel
that is off stays off until then. -/
theorem status_bits (h : s.Reachable) (ch : Channel) :
    (s.channelOn ch = true → s.converterOn ch = true) ∧
    (s.enabled = false → s.channelOn ch = false) ∧
    (∀ e, s.channelOn ch = false → (s.act e).channelOn ch = true →
      e.triggers ch = true ∧ s.enabled = true) ∧
    (∀ events, s.channelOn ch = false → (s.play events).channelOn ch = true →
      ∃ before e rest, events = before ++ e :: rest ∧ (s.play before).channelOn ch = false ∧
        (s.play before).enabled = true ∧ e.triggers ch = true) := by
  have allowed := h.allowed ch
  refine ⟨fun on => (allowed on).2, fun power => ?_, fun e off on => ?_, fun events off on => ?_⟩
  · cases on : s.channelOn ch with
    | true => exact absurd (allowed on).1 (Bool.eq_false_iff.mp power)
    | false => rfl
  · exact (act_turn h.placed e).raised off on
  · exact play_raised h.placed events off on

/-- After the boot program, channel 1 is stopped by its converter and stays off until a trigger. -/
theorem status_bits_converter :
    let s := (unpowered false).boot.act (.write nr12 0x00)
    s.channelOn .one = false ∧ s.enabled = true ∧
      ∀ events, (s.play events).channelOn .one = true →
        ∃ before e rest, events = before ++ e :: rest ∧ (s.play before).channelOn .one = false ∧
          (s.play before).enabled = true ∧ e.triggers .one = true :=
  have off : ((unpowered false).boot.act (.write nr12 0x00)).channelOn .one = false := by decide
  ⟨off, by decide, fun events => (status_bits ((Reachable.boot _).act _) .one).2.2.2 events off⟩

end Sound

end DotMatrix
