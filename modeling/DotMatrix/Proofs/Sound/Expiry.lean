import DotMatrix.Proofs.Sound.Length
import DotMatrix.Proofs.Sound.Steps

/-!
# When a note expires

Every other step of the sequencer clocks the lengths. A voice that counts and has a length left
falls silent with the clock that uses the length up, and no sooner; so the step at which a note ends
is known from its length and the place of the sequencer. The sweep may stop the first channel before.

Results:
* `Voice.iterate_clocked_length`, `Voice.iterate_clocked_on`: a voice after some clocks.
* `iterate_voice`: how many of them some steps of the sequencer are.
* `expires`: the step at which a note ends.
* **`notes_expire`**: the same from a reachable state, beside the other channels, and after a
  trigger.
-/

namespace DotMatrix

/-! ## Clocks -/

namespace Voice

variable (v : Voice)

theorem clocked_counts : v.clocked.counts = v.counts := by
  unfold clocked
  split <;> rfl

theorem clocked_stopped : v.stopped.clocked = v.clocked.stopped := by
  unfold clocked
  change (if v.counts && v.length != 0 then _ else _) = _
  split
  · simp [stopped]
  · rfl

theorem clocked_length : v.clocked.length.toNat = v.length.toNat - if v.counts then 1 else 0 := by
  unfold clocked
  split
  next some =>
    obtain ⟨counts, some⟩ := Bool.and_eq_true_iff.mp some
    have pos : v.length.toNat ≠ 0 := fun zero =>
      bne_iff_ne.mp some (UInt16.toNat_inj.mp zero)
    have one : 1 ≤ v.length := UInt16.le_iff_toNat_le.mpr (Nat.pos_of_ne_zero pos)
    rw [if_pos counts]
    exact UInt16.toNat_sub_of_le _ _ one
  next none =>
    cases counts : v.counts with
    | false => rfl
    | true =>
      have empty : v.length = 0 := by simpa [counts] using none
      rw [empty]
      rfl

theorem iterate_clocked_counts (n : Nat) : (clocked^[n] v).counts = v.counts := by
  induction n with
  | zero => rfl
  | succ n ih => rw [Function.iterate_succ_apply', clocked_counts, ih]

theorem iterate_clocked_length (n : Nat) :
    (clocked^[n] v).length.toNat = v.length.toNat - if v.counts then n else 0 := by
  induction n with
  | zero => simp
  | succ n ih =>
    rw [Function.iterate_succ_apply', clocked_length, iterate_clocked_counts, ih]
    split <;> omega

variable {v}

/-- The clock that uses the length up switches the voice off. -/
theorem clocked_on (counts : v.counts = true) (some : v.length.toNat ≠ 0) :
    v.clocked.on = (v.on && decide (1 < v.length.toNat)) := by
  have left : v.length ≠ 0 := fun zero => some (congrArg UInt16.toNat zero)
  have clock : v.clocked =
      { v with on := v.on && v.length - 1 != 0, length := v.length - 1 } :=
    if_pos (by rw [counts, Bool.true_and]; exact bne_iff_ne.mpr left)
  have after := v.clocked_length
  rw [if_pos counts] at after
  have last : (v.clocked.length != 0) = decide (1 < v.length.toNat) := by
    rw [Bool.eq_iff_iff, bne_iff_ne, ne_eq, ← UInt16.toNat_inj, decide_eq_true_eq, after]
    change ¬ _ = 0 ↔ _
    omega
  rw [← last, clock]

/-- A voice whose length counts is on for as many clocks as its length allows. -/
theorem iterate_clocked_on (counts : v.counts = true) (some : v.length.toNat ≠ 0) (n : Nat) :
    (clocked^[n] v).on = (v.on && decide (n < v.length.toNat)) := by
  induction n with
  | zero => simp [Nat.pos_of_ne_zero some]
  | succ n ih =>
    have length := v.iterate_clocked_length n
    rw [if_pos counts] at length
    rw [Function.iterate_succ_apply']
    by_cases out : v.length.toNat ≤ n
    · have empty : (clocked^[n] v).length = 0 :=
        UInt16.toNat_inj.mp (length.trans (Nat.sub_eq_zero_of_le out))
      rw [clocked_empty empty, ih, decide_eq_false (by omega), decide_eq_false (by omega)]
    · have last : decide (1 < v.length.toNat - n) = decide (n + 1 < v.length.toNat) :=
        decide_eq_decide.mpr (by omega)
      rw [clocked_on ((v.iterate_clocked_counts n).trans counts) (by omega), ih, length,
        decide_eq_true (by omega), Bool.and_true, last]

end Voice

namespace Sound

variable {s : Sound} {ch : Channel}

/-! ## Steps -/

/-- How many of the next `n` steps of the sequencer clock the lengths: every other one. -/
def lengthClocks (s : Sound) (n : Nat) : Nat :=
  (n + (s.sequencer.toNat + 1) % 2) / 2

/-- What one step does to a view of a voice, many do as often as they clock the lengths. -/
theorem iterate_view (view : Voice → Voice)
    (one : ∀ s : Sound, s.Placed → s.enabled = true → view (s.stepSequencer.voice ch) =
      if s.nextSkipsLength then view (s.voice ch) else (view (s.voice ch)).clocked)
    (placed : s.Placed) (power : s.enabled = true) (n : Nat) :
    view ((stepSequencer^[n] s).voice ch) =
      Voice.clocked^[s.lengthClocks n] (view (s.voice ch)) := by
  induction n with
  | zero =>
    have none : s.lengthClocks 0 = 0 := by
      unfold lengthClocks
      omega
    rw [none]
    rfl
  | succ n ih =>
    have on : (stepSequencer^[n] s).enabled = true := (iterate_enabled placed n).trans power
    have odd := (skips_iff (stepSequencer^[n] s)).trans
      (by rw [iterate_sequencer placed power n] : _ ↔ (s.sequencer.toNat + n) % 8 % 2 = 1)
    rw [Function.iterate_succ_apply', one _ (iterate_placed placed n) on, ih]
    split
    next skips =>
      have same : s.lengthClocks (n + 1) = s.lengthClocks n := by
        have odd := odd.mp skips
        unfold lengthClocks
        omega
      rw [same]
    next clocks =>
      have more : s.lengthClocks (n + 1) = s.lengthClocks n + 1 := by
        have even := mt odd.mpr clocks
        unfold lengthClocks
        omega
      rw [more, Function.iterate_succ_apply']

/-- The steps clock the voices of all channels but the first. -/
theorem iterate_voice (placed : s.Placed) (power : s.enabled = true) (other : ch ≠ .one) (n : Nat) :
    (stepSequencer^[n] s).voice ch = Voice.clocked^[s.lengthClocks n] (s.voice ch) :=
  iterate_view id (fun s placed power => stepSequencer_other s ch power placed.step other)
    placed power n

/-- The sweep may stop the first channel, but its length is clocked all the same. -/
theorem iterate_stopped (placed : s.Placed) (power : s.enabled = true) (ch : Channel) (n : Nat) :
    ((stepSequencer^[n] s).voice ch).stopped =
      Voice.clocked^[s.lengthClocks n] (s.voice ch).stopped := by
  refine iterate_view Voice.stopped (fun s placed power => ?_) placed power n
  rw [Voice.clocked_stopped, ← apply_ite Voice.stopped]
  rcases stepSequencer_voice s ch power placed.step with same | stopped
  · rw [same]
  · rw [stopped]
    rfl

/-- A length depends on itself, on whether it counts, and on the place of the sequencer. -/
theorem iterate_length (placed : s.Placed) (power : s.enabled = true) (ch : Channel) (n : Nat) :
    ((stepSequencer^[n] s).length ch).toNat =
      (s.length ch).toNat - if s.lengthEnabled ch then s.lengthClocks n else 0 := by
  have after := congrArg (fun v => v.length.toNat) (iterate_stopped placed power ch n)
  exact after.trans ((s.voice ch).stopped.iterate_clocked_length _)

/-- A note whose length counts sounds for as many steps as there are until its length is used up. -/
theorem expires (placed : s.Placed) (power : s.enabled = true) (other : ch ≠ .one)
    (on : s.channelOn ch = true) (counts : s.lengthEnabled ch = true) (some : s.length ch ≠ 0)
    (n : Nat) : (stepSequencer^[n] s).channelOn ch = true ↔
      n < 2 * (s.length ch).toNat - (s.sequencer.toNat + 1) % 2 := by
  have left : (s.voice ch).length.toNat ≠ 0 := fun zero => some (UInt16.toNat_inj.mp zero)
  have after : (stepSequencer^[n] s).channelOn ch = _ :=
    (congrArg Voice.on (iterate_voice placed power other n)).trans
      (Voice.iterate_clocked_on counts left _)
  have sounds : (s.voice ch).on = true := on
  rw [after, sounds, Bool.true_and, decide_eq_true_eq]
  change s.lengthClocks n < (s.length ch).toNat ↔ _
  unfold lengthClocks
  omega

/-! ## Triggers -/

theorem maxLength_sub_one (ch : Channel) : (ch.maxLength - 1).toNat = ch.maxLength.toNat - 1 := by
  cases ch <;> decide

theorem maxLength_ne (ch : Channel) (less : Bool) :
    (if less then ch.maxLength - 1 else ch.maxLength) ≠ 0 := by
  cases ch <;> cases less <;> decide

/-- A trigger of a channel whose length has run out gives it the longest one, or one less at an odd
place of the sequencer if the length is to count. -/
theorem trigger_exhausted (power : s.enabled = true) (other : ch ≠ .one) (empty : s.length ch = 0)
    {val : UInt8} (trigger : hasBit val 0x80 = true) (counts : hasBit val 0x40 = true) :
    let t := s.act (.write (controlReg ch) val)
    t.sequencer = s.sequencer ∧ t.voice ch = { s.voice ch with
      on := s.converterOn ch
      counts := true
      length := if s.nextSkipsLength then ch.maxLength - 1 else ch.maxLength } := by
  intro t
  have quiet : s.clockOnEnable ch val = s := by
    unfold clockOnEnable
    simp [empty]
  have here : t = (s.setReg (controlReg ch) val).trigger ch :=
    (act_trigger power ch trigger).trans (by rw [quiet])
  have stored := control_setReg_voice s ch ch val
  rw [if_pos rfl, counts] at stored
  have reloaded : (s.setReg (controlReg ch) val).reloadedLength ch =
      if s.nextSkipsLength then ch.maxLength - 1 else ch.maxLength := by
    have length : (s.setReg (controlReg ch) val).length ch = 0 :=
      (congrArg Voice.length stored).trans empty
    have enabled : (s.setReg (controlReg ch) val).lengthEnabled ch = true :=
      congrArg Voice.counts stored
    unfold reloadedLength
    rw [length, enabled]
    rfl
  have converter : (s.setReg (controlReg ch) val).converterOn ch = s.converterOn ch :=
    congrArg Voice.converter stored
  rw [here]
  refine ⟨congrArg Prod.fst (trigger_places _ ch), ?_⟩
  rw [trigger_sounds _ ch other, stored, reloaded, converter]

/-- **Notes expire.** A note of a channel without sweep whose length counts and is `l` sounds for
`2l - 2` more steps of the sequencer at an even place and for `2l - 1` at an odd one, and is off
from the next step on. The lengths of the other channels do not depend on it. A trigger that finds
the length exhausted and lets it count starts a note that is off after `2m - 1` steps at an even
place and after `2m - 2` at an odd one, where `m` is the longest length. -/
theorem notes_expire (h : s.Reachable) (power : s.enabled = true) (other : ch ≠ .one) :
    (s.channelOn ch = true → s.lengthEnabled ch = true → s.length ch ≠ 0 →
      let l := (s.length ch).toNat
      (s.sequencer.toNat % 2 = 0 →
        ∀ n, (stepSequencer^[n] s).channelOn ch = true ↔ n < 2 * l - 1) ∧
      (s.sequencer.toNat % 2 = 1 →
        ∀ n, (stepSequencer^[n] s).channelOn ch = true ↔ n < 2 * l)) ∧
    (∀ t : Sound, t.Reachable → t.enabled = true → t.sequencer = s.sequencer →
      (∀ d ≠ ch, t.length d = s.length d ∧ t.lengthEnabled d = s.lengthEnabled d) →
      ∀ d ≠ ch, ∀ n, (stepSequencer^[n] t).length d = (stepSequencer^[n] s).length d) ∧
    ∀ val, s.length ch = 0 → s.converterOn ch = true → hasBit val 0x80 = true →
      hasBit val 0x40 = true →
      let t := s.act (.write (controlReg ch) val)
      let m := ch.maxLength.toNat
      (s.sequencer.toNat % 2 = 0 →
        ∀ n, (stepSequencer^[n] t).channelOn ch = true ↔ n < 2 * m - 1) ∧
      (s.sequencer.toNat % 2 = 1 →
        ∀ n, (stepSequencer^[n] t).channelOn ch = true ↔ n < 2 * m - 2) := by
  refine ⟨fun on counts some => ?_, fun t ht on place same d away n => ?_,
    fun val empty converter trigger counts => ?_⟩
  · have ends := expires h.placed power other on counts some
    refine ⟨fun even n => ?_, fun odd n => ?_⟩
    · rw [ends n]
      omega
    · rw [ends n]
      omega
  · obtain ⟨length, enabled⟩ := same d away
    apply UInt16.toNat_inj.mp
    rw [iterate_length h.placed power, iterate_length ht.placed on, length, enabled, lengthClocks,
      lengthClocks, place]
  · intro t m
    obtain ⟨place, voice⟩ := trigger_exhausted power other empty trigger counts
    have on : t.channelOn ch = true := (congrArg Voice.on voice).trans converter
    have enabled : t.lengthEnabled ch = true := congrArg Voice.counts voice
    have powered : t.enabled = true := (congrArg Voice.power voice).trans power
    have length : t.length ch = if s.nextSkipsLength then ch.maxLength - 1 else ch.maxLength :=
      congrArg Voice.length voice
    have some : t.length ch ≠ 0 := length ▸ maxLength_ne ch s.nextSkipsLength
    have ends := expires (act_placed h.placed _) powered other on enabled some
    refine ⟨fun even n => ?_, fun odd n => ?_⟩
    · have clocks : s.nextSkipsLength = false :=
        Bool.eq_false_iff.mpr fun skips => by
          have odd := (skips_iff s).mp skips
          omega
      rw [ends n, length, clocks, if_neg Bool.false_ne_true, place]
      change n < 2 * m - _ ↔ _
      omega
    · rw [ends n, length, if_pos ((skips_iff s).mpr odd), maxLength_sub_one, place]
      change n < 2 * (m - 1) - _ ↔ _
      omega

/-- Channel 2 with one clock left at an odd place of the sequencer is off after two steps, whatever
its length is for the others; and channel 3, triggered with nothing left at an even place, after
511. -/
theorem notes_expire_odd :
    let start := (unpowered false).boot
    let s := start.play [.write nr22 0xF0, .write nr21 0x3E, .write nr24 0xC0, .clock]
    let t := start.play [.write nr22 0xF0, .write nr24 0xC0, .clock]
    let u := start.act (.write nr30 0x80)
    s.channelOn .two = true ∧ s.lengthEnabled .two = true ∧ s.length .two = 1 ∧
      s.sequencer.toNat % 2 = 1 ∧
      (∀ n, (stepSequencer^[n] s).channelOn .two = true ↔ n < 2) ∧
      (∀ n, (stepSequencer^[n] t).length .four = (stepSequencer^[n] s).length .four) ∧
      u.sequencer.toNat % 2 = 0 ∧
      ∀ n, (stepSequencer^[n] (u.act (.write nr34 0xC0))).channelOn .three = true ↔ n < 511 := by
  intro start s t u
  have reachable : s.Reachable := (Reachable.boot _).play _
  have other : t.Reachable := (Reachable.boot _).play _
  have triggering : u.Reachable := (Reachable.boot _).act _
  have on : s.channelOn .two = true := by decide
  have counts : s.lengthEnabled .two = true := by decide
  have one : s.length .two = 1 := by decide
  have odd : s.sequencer.toNat % 2 = 1 := by decide
  have even : u.sequencer.toNat % 2 = 0 := by decide
  obtain ⟨left, apart, -⟩ := notes_expire reachable (by decide) (by decide : Channel.two ≠ .one)
  obtain ⟨-, -, exhausted⟩ := notes_expire triggering (by decide) (by decide : Channel.three ≠ .one)
  have two := (left on counts (by decide)).2 odd
  rw [one] at two
  have others : ∀ d ≠ .two, t.length d = s.length d ∧ t.lengthEnabled d = s.lengthEnabled d := by
    intro d away
    cases d with
    | two => exact absurd rfl away
    | one | three | four => decide
  have same := apart t other (by decide) (by decide) others .four (by decide)
  have long := (exhausted 0xC0 (by decide) (by decide) (by decide) (by decide)).1 even
  exact ⟨on, counts, one, odd, two, same, even, long⟩

end Sound

end DotMatrix
