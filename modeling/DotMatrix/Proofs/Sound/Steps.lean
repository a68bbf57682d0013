import DotMatrix.Proofs.Sound.Turn
import Mathlib.Logic.Function.Iterate

/-!
# Steps of the sequencer

The sequencer makes its steps one after another and goes round through eight places. It neither
takes the power away nor gives it. What it clocks with a period of its own counts down from the period, so
that after `n` clocks the countdown stands at `p - n % p` and has run out `n / p` times.

Results:
* `stepSequencerMany_eq`: many steps are the iterates of one.
* `iterate_placed`, `iterate_enabled`, **`iterate_sequencer`**: where the sequencer is after them.
* `skips_iff`: odd places leave the lengths alone.
* `period_zero_iff`, `periodOf_toNat`: the period in a field of three bits.
* `countdown_waits`, `countdown_ends`: one more clock of a countdown.
-/

namespace DotMatrix

namespace Sound

variable {s : Sound}

theorem stepSequencerMany_eq (n : Nat) (s : Sound) :
    stepSequencerMany n s = stepSequencer^[n] s := by
  induction n generalizing s with
  | zero => rfl
  | succ n ih => exact ih s.stepSequencer

theorem iterate_placed (placed : s.Placed) (n : Nat) : (stepSequencer^[n] s).Placed := by
  induction n with
  | zero => exact placed
  | succ n ih =>
    rw [Function.iterate_succ_apply']
    exact act_placed ih .clock

theorem stepSequencer_enabled (placed : s.Placed) : s.stepSequencer.enabled = s.enabled := by
  cases power : s.enabled with
  | false => rw [stepSequencer, if_neg (Bool.eq_false_iff.mp power), power]
  | true =>
    have held := stepSequencer_voice s .one power placed.step
    have before :
        (if s.nextSkipsLength then s.voice .one else (s.voice .one).clocked).power = true := by
      unfold Voice.clocked
      split_ifs <;> exact power
    rcases held with same | stopped
    · exact (congrArg Voice.power same).trans before
    · exact (congrArg Voice.power stopped).trans before

theorem iterate_enabled (placed : s.Placed) (n : Nat) :
    (stepSequencer^[n] s).enabled = s.enabled := by
  induction n with
  | zero => rfl
  | succ n ih =>
    rw [Function.iterate_succ_apply', stepSequencer_enabled (iterate_placed placed n), ih]

/-- **The place of the sequencer** after `n` steps. -/
theorem iterate_sequencer (placed : s.Placed) (power : s.enabled = true) (n : Nat) :
    (stepSequencer^[n] s).sequencer.toNat = (s.sequencer.toNat + n) % 8 := by
  induction n with
  | zero => exact (Nat.mod_eq_of_lt placed.step).symm
  | succ n ih =>
    have next := congrArg Prod.fst (stepSequencer_places (s := stepSequencer^[n] s))
    rw [iterate_enabled placed, if_pos power] at next
    change (stepSequencer^[n] s).stepSequencer.sequencer = _ at next
    rw [Function.iterate_succ_apply', next, byte_and_ones (n := 3) rfl, UInt8.toNat_add, ih]
    change ((s.sequencer.toNat + n) % 8 + 1) % 256 % 8 = _
    omega

/-- At an odd place the coming step leaves the lengths alone. -/
theorem skips_iff (s : Sound) : s.nextSkipsLength = true ↔ s.sequencer.toNat % 2 = 1 := by
  rw [nextSkipsLength, beq_iff_eq, ← UInt8.toNat_inj, byte_and_ones (n := 1) rfl]
  rfl

end Sound

/-! ## Countdowns -/

theorem period_zero_iff (field : UInt8) : (field &&& 0x07 == 0) = true ↔ field.toNat % 8 = 0 := by
  rw [beq_iff_eq, ← UInt8.toNat_inj, byte_and_ones (n := 3) rfl]
  rfl

/-- A period has three bits, and 0 stands for 8. -/
theorem periodOf_toNat (field : UInt8) :
    (periodOf field).toNat = if field.toNat % 8 = 0 then 8 else field.toNat % 8 := by
  unfold periodOf
  by_cases zero : field.toNat % 8 = 0
  · rw [if_pos zero, if_pos ((period_zero_iff field).mpr zero)]
    rfl
  · rw [if_neg zero, if_neg (mt (period_zero_iff field).mp zero)]
    exact byte_and_ones (n := 3) rfl field

section Countdown

variable {p n : Nat}

theorem countdown_succ (some : 0 < p) : (n + 1) / p = n / p + (n % p + 1) / p := by
  rw [← Nat.mul_add_div some, ← Nat.add_assoc, Nat.div_add_mod]

/-- A clock within a period. -/
theorem countdown_waits (inside : n % p + 1 < p) :
    (n + 1) / p = n / p ∧ (n + 1) % p = n % p + 1 := by
  rw [countdown_succ (Nat.zero_lt_of_lt inside), Nat.div_eq_of_lt inside, ← Nat.mod_add_mod,
    Nat.mod_eq_of_lt inside]
  exact ⟨rfl, rfl⟩

/-- The last clock of a period. -/
theorem countdown_ends (last : n % p + 1 = p) : (n + 1) / p = n / p + 1 ∧ (n + 1) % p = 0 := by
  have some : 0 < p := last ▸ Nat.succ_pos _
  rw [countdown_succ some, last, Nat.div_self some, ← Nat.mod_add_mod, last, Nat.mod_self]
  exact ⟨rfl, rfl⟩

end Countdown

end DotMatrix
