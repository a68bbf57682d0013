import DotMatrix.Bus.Basic
import DotMatrix.Proofs.Sound.Status

/-!
# The length of a note

A channel whose length counts is to fall silent when its length has run out. A length that is zero
does not count, so a note must have one for that: triggers give one, and so do the writes that load
a length. Only the note that sounds after the boot program has none.

Results:
* `Turn.bounded`, `act_renewed`: notes have a length, once one has been given.
* `play_ends`: a note whose length counts ends by itself.
* **`notes_end_iff`**: after the boot program notes end by themselves, but for the one that sounds
  from the beginning.
* `first_note_stuck`: that note does not end when its length begins to count.
-/

namespace DotMatrix

/-- A voice that sounds has a length. -/
def Voice.Bounded (v : Voice) : Prop :=
  v.on = true → v.length ≠ 0

theorem Voice.Bounded.of_off {v : Voice} (off : v.on = false) : v.Bounded :=
  fun on => absurd on (Bool.eq_false_iff.mp off)

theorem Voice.Bounded.of_held {v v' : Voice} (held : v.Held v') (h : v.Bounded) : v'.Bounded := by
  rcases held with rfl | rfl
  · exact h
  · exact .of_off rfl

theorem Voice.Bounded.clocked {v : Voice} (h : v.Bounded) : v.clocked.Bounded := by
  unfold Voice.clocked
  split
  · exact fun on => bne_iff_ne.mp (Bool.and_eq_true_iff.mp on).2
  · exact h

/-- A length of zero does not count. -/
theorem Voice.clocked_empty {v : Voice} (empty : v.length = 0) : v.clocked = v := by
  simp [Voice.clocked, empty]

/-- The voice is off, or it has a length that counts and runs out within `n` steps of the sequencer;
`skips` says whether the coming step leaves the lengths alone. -/
def Voice.EndsWithin (v : Voice) (skips : Bool) (n : Nat) : Prop :=
  v.on = false ∨
    v.counts = true ∧ v.length ≠ 0 ∧ 2 * v.length.toNat - (if skips then 0 else 1) ≤ n

namespace Voice.EndsWithin

variable {v v' : Voice} {skips : Bool} {n : Nat}

theorem of_held (held : v.Held v') (h : v.EndsWithin skips n) : v'.EndsWithin skips n := by
  rcases held with rfl | rfl
  · exact h
  · exact .inl rfl

theorem skip (h : v.EndsWithin true n) : v.EndsWithin false (n - 1) := by
  rcases h with off | ⟨counts, some, left⟩
  · exact .inl off
  · exact .inr ⟨counts, some, Nat.sub_le_sub_right left 1⟩

theorem clocked (h : v.EndsWithin false n) : v.clocked.EndsWithin true (n - 1) := by
  rcases h with off | ⟨counts, some, left⟩
  · exact .inl (Voice.clocked_off off)
  have clock : v.clocked =
      { v with on := v.on && v.length - 1 != 0, length := v.length - 1 } :=
    if_pos (by rw [counts, Bool.true_and]; exact bne_iff_ne.mpr some)
  rw [clock]
  by_cases out : v.length - 1 = 0
  · left
    simp [out]
  · have one : (v.length - 1).toNat = v.length.toNat - 1 :=
      UInt16.toNat_sub_of_le _ _ (UInt16.le_iff_toNat_le.mpr (Nat.pos_of_ne_zero fun zero =>
        some (UInt16.toNat_inj.mp zero)))
    refine .inr ⟨counts, out, ?_⟩
    simp only [Bool.false_eq_true, if_false, if_true] at left ⊢
    omega

/-- Nothing is left to wait for. -/
theorem off (h : v.EndsWithin skips 0) : v.on = false := by
  rcases h with off | ⟨-, some, left⟩
  · exact off
  · have zero : v.length.toNat = 0 := by
      split at left <;> omega
    exact absurd (UInt16.toNat_inj.mp zero) some

end Voice.EndsWithin

namespace Sound

/-- An event that gives the channel a length, if there is power. -/
def Event.renews (ch : Channel) (e : Event) : Bool :=
  e.loads ch || e.triggers ch

variable {s : Sound} {e : Event} {ch : Channel} {v v' : Voice}

/-! ## Notes have a length -/

theorem Turn.bounded (turn : Turn e ch v v') (h : v.Bounded) : v'.Bounded := by
  cases turn with
  | kept => exact h
  | stepped _ held => exact held.elim (h.of_held ·) (h.clocked.of_held ·)
  | loaded _ some => exact fun _ => some
  | switched => exact fun on => h (Bool.and_eq_true_iff.mp on).1
  | counted => exact h
  | extra => exact Voice.Bounded.clocked (v := { v with counts := true }) h
  | triggered _ _ _ some => exact fun _ => some
  | unpowered => exact .of_off rfl
  | powered => exact h

/-- Without a new one, a length that has run out stays so. -/
theorem Turn.empty (turn : Turn e ch v v') (old : e.renews ch = false) (empty : v.length = 0) :
    v'.length = 0 := by
  obtain ⟨load, trigger⟩ := Bool.or_eq_false_iff.mp old
  have held {w : Voice} (held : w.Held v') (empty : w.length = 0) : v'.length = 0 := by
    rcases held with rfl | rfl <;> exact empty
  cases turn with
  | kept | switched | counted | powered => exact empty
  | stepped _ h =>
    rw [Voice.clocked_empty empty, or_self] at h
    exact held h empty
  | loaded load' => exact absurd load' (Bool.eq_false_iff.mp load)
  | extra =>
    rw [Voice.clocked_empty (v := { v with counts := true }) empty]
    exact empty
  | triggered trigger' => exact absurd trigger' (Bool.eq_false_iff.mp trigger)
  | unpowered => rfl

/-- With power, a write reaches the registers below the wave memory. -/
theorem write_powered (power : s.enabled = true) {r : Reg} (status : r ≠ nr52) (low : r.val < 0x20)
    (val : UInt8) : s.write r.address val = s.writeReg r val := by
  simp only [write, address_power, address_wave, regAt_address, decide_eq_true_eq, if_neg status,
    if_neg (Nat.not_le.mpr low), if_pos power]

/-- With power, a trigger stores its register, after the extra clock of the length. -/
theorem act_trigger (power : s.enabled = true) (ch : Channel) {val : UInt8}
    (trigger : hasBit val 0x80 = true) : s.act (.write (controlReg ch) val) =
      ((s.clockOnEnable ch val).setReg (controlReg ch) val).trigger ch := by
  have role : roleOf (controlReg ch) = .control ch := by
    cases ch <;> rfl
  rw [act, write_powered power (by cases ch <;> decide) (by cases ch <;> decide)]
  simp only [writeReg, beforeStore, afterStore, role, if_pos trigger]

theorem act_renewed (power : s.enabled = true) (new : e.renews ch = true) :
    (s.act e).length ch ≠ 0 := by
  cases e with
  | clock | time => exact absurd new Bool.false_ne_true
  | write r val =>
    simp only [Event.renews, Event.loads, Event.triggers, Bool.or_eq_true, Bool.and_eq_true,
      decide_eq_true_eq] at new
    rcases new with rfl | ⟨rfl, trigger⟩
    · have role : roleOf (lengthReg ch) = .length ch := by
        cases ch <;> rfl
      have after := writeLength_voice s ch ch val
      rw [if_pos rfl] at after
      rw [act, write_powered power (by cases ch <;> decide) (by cases ch <;> decide)]
      simp only [writeReg, beforeStore, afterStore, role]
      exact (congrArg Voice.length after).trans_ne (loadedLength_ne ch val)
    · rw [act_trigger power ch trigger]
      obtain ⟨on, -, after⟩ :=
        trigger_voice ((s.clockOnEnable ch val).setReg (controlReg ch) val) ch
      exact (congrArg Voice.length after).trans_ne (reloadedLength_ne _ ch)

theorem play_bounded (placed : s.Placed) (h : (s.voice ch).Bounded) (events : List Event) :
    ((s.play events).voice ch).Bounded := by
  induction events generalizing s with
  | nil => exact h
  | cons e rest ih => exact ih (act_placed placed e) ((act_turn placed e).bounded h)

theorem play_empty (placed : s.Placed) (empty : s.length ch = 0) {events : List Event}
    (old : ∀ e ∈ events, e.renews ch = false) : (s.play events).length ch = 0 := by
  induction events generalizing s with
  | nil => exact empty
  | cons e rest ih =>
    obtain ⟨first, others⟩ := List.forall_mem_cons.mp old
    exact ih (act_placed placed e) ((act_turn placed e).empty first empty) others

theorem Reachable.play (h : s.Reachable) (events : List Event) : (s.play events).Reachable := by
  induction events generalizing s with
  | nil => exact h
  | cons e rest ih => exact ih (h.act e)

/-- Once a channel has been given a length, or would have been if there were power, its notes have
one. -/
theorem Reachable.renewed (h : s.Reachable) {events : List Event} (new : e ∈ events)
    (renews : e.renews ch = true) : ((s.play events).voice ch).Bounded := by
  obtain ⟨before, rest, rfl⟩ := List.append_of_mem new
  have earlier := h.play before
  have here : (((s.play before).act e).voice ch).Bounded := by
    cases power : (s.play before).enabled with
    | true => exact fun _ => act_renewed power renews
    | false =>
      refine (act_turn earlier.placed e).bounded (.of_off ?_)
      exact Bool.eq_false_iff.mpr fun on =>
        absurd (earlier.allowed ch on).1 (Bool.eq_false_iff.mp power)
  rw [Sound.play, List.foldl_append]
  exact play_bounded (act_placed earlier.placed e) here rest

/-! ## Notes end -/

theorem triggers_writesTo (trigger : e.triggers ch = true) : e.writesTo ch = true := by
  cases e with
  | write r val =>
    simp only [Event.triggers, Bool.and_eq_true, decide_eq_true_eq] at trigger
    obtain ⟨rfl, -⟩ := trigger
    exact writesTo_control ch val
  | clock | time => exact absurd trigger Bool.false_ne_true

theorem loads_writesTo (load : e.loads ch = true) : e.writesTo ch = true := by
  cases e with
  | write r val =>
    obtain rfl : r = lengthReg ch := of_decide_eq_true load
    exact decide_eq_true (show lengthReg ch ∈ registers ch by cases ch <;> decide)
  | clock | time => exact absurd load Bool.false_ne_true

/-- Beside the clock, what happens elsewhere leaves a voice alone or takes its power. -/
theorem Turn.elsewhere (turn : Turn e ch v v') (other : e ≠ .clock)
    (unwritten : e.writesTo ch = false) (power : v.power = true) : v' = v ∨ v' = .silent := by
  have none {p : Prop} (written : e.writesTo ch = true) : p :=
    absurd written (Bool.eq_false_iff.mp unwritten)
  cases turn with
  | kept => exact .inl rfl
  | stepped clock => exact absurd clock other
  | loaded load => exact none (loads_writesTo load)
  | switched _ written | counted _ written | extra written => exact none written
  | triggered trigger => exact none (triggers_writesTo trigger)
  | unpowered => exact .inr rfl
  | powered off => exact absurd power (Bool.eq_false_iff.mp off)

/-- Odd and even steps alternate. -/
theorem stepSequencer_skips (power : s.enabled = true) (step : s.sequencer < 8) :
    s.stepSequencer.nextSkipsLength = !s.nextSkipsLength := by
  have next : s.stepSequencer.sequencer = (s.sequencer + 1) &&& 7 := by
    have after := congrArg Prod.fst (stepSequencer_places (s := s))
    rwa [if_pos power] at after
  rw [nextSkipsLength, nextSkipsLength, next]
  rcases sequencer_cases s step with n | n | n | n | n | n | n | n <;> rw [n] <;> decide

theorem clock_ends (placed : s.Placed) (power : s.enabled = true) {n : Nat}
    (h : (s.voice ch).EndsWithin s.nextSkipsLength n) :
    (s.stepSequencer.voice ch).EndsWithin s.stepSequencer.nextSkipsLength (n - 1) := by
  have after := stepSequencer_voice s ch power placed.step
  rw [stepSequencer_skips power placed.step]
  cases skips : s.nextSkipsLength with
  | true =>
    rw [skips] at h
    rw [skips, if_pos rfl] at after
    exact h.skip.of_held after
  | false =>
    rw [skips] at h
    rw [skips, if_neg Bool.false_ne_true] at after
    exact h.clocked.of_held after

/-- What happens elsewhere does not delay the end of a note, and every step of the sequencer brings
it nearer. -/
theorem act_ends (placed : s.Placed) (allowed : (s.voice ch).Allowed)
    (unwritten : e.writesTo ch = false) {n : Nat}
    (h : (s.voice ch).EndsWithin s.nextSkipsLength n) :
    ((s.act e).voice ch).EndsWithin (s.act e).nextSkipsLength
      (n - if e = .clock then 1 else 0) := by
  have turn : Turn e ch (s.voice ch) ((s.act e).voice ch) := act_turn placed e
  cases on : s.channelOn ch with
  | false =>
    refine .inl (Bool.eq_false_iff.mpr fun raised => ?_)
    obtain ⟨trigger, -⟩ := turn.raised on raised
    exact absurd (triggers_writesTo trigger) (Bool.eq_false_iff.mp unwritten)
  | true =>
    have power : s.enabled = true := (allowed on).1
    by_cases clock : e = .clock
    · subst clock
      exact clock_ends placed power h
    rw [if_neg clock, Nat.sub_zero]
    rcases turn.elsewhere clock unwritten power with same | silent
    · rcases act_sequencer (s := s) clock with still | silent
      · rw [same, nextSkipsLength, still]
        exact h
      · rw [silent]
        exact .inl rfl
    · rw [silent]
      exact .inl rfl

theorem Reachable.ends (h : s.Reachable) (later : List Event)
    (unwritten : ∀ e ∈ later, e.writesTo ch = false) {n : Nat}
    (ends : (s.voice ch).EndsWithin s.nextSkipsLength n) :
    ((s.play later).voice ch).EndsWithin (s.play later).nextSkipsLength
      (n - later.count .clock) := by
  induction later generalizing s n with
  | nil => exact ends
  | cons e rest ih =>
    obtain ⟨first, others⟩ := List.forall_mem_cons.mp unwritten
    have next := ih (h.act e) others (act_ends h.placed (h.allowed ch) first ends)
    rw [List.count_cons, Nat.add_comm, ← Nat.sub_sub]
    simp only [beq_iff_eq]
    exact next

/-- A note whose length counts ends by itself. -/
theorem Reachable.off (h : s.Reachable) (counts : s.lengthEnabled ch = true)
    (some : s.length ch ≠ 0) {later : List Event}
    (unwritten : ∀ e ∈ later, e.writesTo ch = false)
    (enough : 2 * (s.length ch).toNat ≤ later.count .clock) :
    (s.play later).channelOn ch = false := by
  have ends : (s.voice ch).EndsWithin s.nextSkipsLength (later.count .clock) :=
    .inr ⟨counts, some, (Nat.sub_le _ _).trans enough⟩
  have after := h.ends later unwritten ends
  rw [Nat.sub_self] at after
  exact after.off

/-! ## After the boot program -/

/-- **Notes end by themselves.** Whatever has happened since the boot program, a channel that sounds
with a length that counts has a length left, and if its registers are not written again, it is off
after twice as many steps of the sequencer. The one exception is the note of channel 1 that sounds
after the boot program, as long as the channel has neither been given a length nor been triggered. -/
theorem notes_end_iff (model : Model) (events : List Event) (ch : Channel) :
    let s := (Bus.new model).sound.play events
    (s.channelOn ch = true → s.lengthEnabled ch = true →
      s.length ch ≠ 0 ∧ ∀ later : List Event, (∀ e ∈ later, e.writesTo ch = false) →
        2 * (s.length ch).toNat ≤ later.count .clock → (s.play later).channelOn ch = false) ↔
    (ch = .one → s.channelOn .one = true → s.lengthEnabled .one = true →
      ∃ e ∈ events, e.loads .one = true ∨ e.triggers .one = true) := by
  have start : (Bus.new model).sound.Reachable := .boot _
  have voice : ∀ ch, (Bus.new model).sound.voice ch = _ := boot_voice _
  constructor
  · rintro ends rfl on counts
    by_contra none
    have old : ∀ e ∈ events, e.renews .one = false := fun e member =>
      Bool.eq_false_iff.mpr fun new => none ⟨e, member, Bool.or_eq_true_iff.mp new⟩
    have empty : (Bus.new model).sound.length .one = 0 := congrArg Voice.length (voice .one)
    exact (ends on counts).1 (play_empty start.placed empty old)
  · intro renewed on counts
    have some : ((Bus.new model).sound.play events).length ch ≠ 0 := by
      by_cases one : ch = .one
      · subst one
        obtain ⟨e, member, new⟩ := renewed rfl on counts
        exact start.renewed member (Bool.or_eq_true_iff.mpr new) on
      · have off : (Bus.new model).sound.channelOn ch = decide (ch = .one) :=
          congrArg Voice.on (voice ch)
        exact play_bounded start.placed (.of_off (off.trans (decide_eq_false one))) events on
    exact ⟨some, fun later unwritten => (start.play events).off counts some unwritten⟩

/-- The note that sounds after the boot program goes on when its length begins to count. -/
theorem first_note_stuck :
    let s := (Bus.new .dmg).sound.play [.write nr14 0x40]
    s.channelOn .one = true ∧ s.lengthEnabled .one = true ∧ s.length .one = 0 ∧
      (s.play (List.replicate 128 .clock)).channelOn .one = true := by
  decide +kernel

end Sound

end DotMatrix
