import Mathlib.Algebra.Ring.Periodic
import Mathlib.Data.Nat.Prime.Basic
import Mathlib.Dynamics.PeriodicPts.Defs
import Mathlib.Tactic.ByContra

/-!
# Streams of bits with two taps

A shift register of `w` bits that takes in the sum of its two lowest bits puts out a stream in which
every bit is the sum of those `w` and `w - 1` places before it (`Tapped w`). Two things are known of
such a stream without running it.

* What holds of the distances `w` and `1` holds of `w * 2 ^ j` and `2 ^ j` too: after two leaps, the
  bit in the middle has been added twice (`Tapped.leap`).
* So if `w = 2 ^ m - 1`, then the bits at the distances 1, 2, 4, … make a stream of width `m`
  (`Tapped.powers`), and if that one repeats itself after `p` bits, this one does after `2 ^ p - 1`
  (`Tapped.periodic_tower`). The widths 2, 3 and 7 have the periods 3, 7 and 127 in this way, and
  the widths 4 and 15 the periods 15 and 32767.

Results:
* `Tapped.ext`: two streams of one width that begin alike are the same.
* **`Tapped.periodic_seven`**, **`Tapped.periodic_fifteen`**: the periods.
* `periodic_iff_dvd`: which other periods there are.
* `Tapped.changes`: a stream of this kind never comes to rest.
-/

namespace DotMatrix

open Function (Periodic IsPeriodicPt minimalPeriod)

/-- Each bit is the sum of those `w` and `w - 1` places before it. -/
def Tapped (w : ℕ) (f : ℕ → Bool) : Prop :=
  ∀ n, f (n + w) = (f n ^^ f (n + 1))

namespace Tapped

variable {w m p : ℕ} {f g : ℕ → Bool}

theorem onward (h : Tapped w f) (k : ℕ) : Tapped w (fun n => f (k + n)) := by
  intro n
  simp only [← Nat.add_assoc]
  exact h (k + n)

/-- Two streams that begin alike are the same. -/
theorem ext (wide : 1 < w) (hf : Tapped w f) (hg : Tapped w g) (alike : ∀ i < w, f i = g i) :
    f = g := by
  funext n
  induction n using Nat.strong_induction_on with
  | _ n ih =>
    by_cases first : n < w
    · exact alike n first
    · obtain ⟨k, rfl⟩ := Nat.exists_eq_add_of_le' (Nat.not_lt.mp first)
      rw [hf k, hg k, ih k (by omega), ih (k + 1) (by omega)]

/-! ## Leaps -/

/-- The law of the stream at distances that have been doubled. -/
theorem leap (h : Tapped w f) (j n : ℕ) : f (n + w * 2 ^ j) = (f n ^^ f (n + 2 ^ j)) := by
  induction j generalizing n with
  | zero =>
    rw [Nat.pow_zero, Nat.mul_one]
    exact h n
  | succ j ih =>
    have twice (k : ℕ) : n + k * 2 ^ (j + 1) = n + k * 2 ^ j + k * 2 ^ j := by
      rw [Nat.pow_succ, ← Nat.mul_assoc, Nat.mul_two, Nat.add_assoc]
    have step : n + 2 ^ (j + 1) = n + 2 ^ j + 2 ^ j := by
      rw [Nat.pow_succ, Nat.mul_two, Nat.add_assoc]
    calc f (n + w * 2 ^ (j + 1))
      _ = (f (n + w * 2 ^ j) ^^ f (n + 2 ^ j + w * 2 ^ j)) := by
        rw [twice, ih, Nat.add_right_comm]
      _ = ((f n ^^ f (n + 2 ^ j)) ^^ (f (n + 2 ^ j) ^^ f (n + 2 ^ j + 2 ^ j))) := by rw [ih, ih]
      _ = (f n ^^ f (n + 2 ^ (j + 1))) := by
        rw [Bool.xor_assoc, ← Bool.xor_assoc (f (n + 2 ^ j)), Bool.xor_self, Bool.false_xor, step]

/-- With a width of `2 ^ m - 1`, the bits at the distances 1, 2, 4, … have the width `m`. -/
theorem powers (h : Tapped (2 ^ m - 1) f) (n : ℕ) : Tapped m (fun j => f (n + 2 ^ j)) := by
  intro j
  have whole : 2 ^ j + (2 ^ m - 1) * 2 ^ j = 2 ^ (j + m) := by
    rw [Nat.sub_mul, Nat.one_mul, ← Nat.pow_add, Nat.add_comm m]
    exact Nat.add_sub_cancel' (Nat.pow_le_pow_right (by decide) (Nat.le_add_right j m))
  have far := h.leap j (n + 2 ^ j)
  rw [Nat.add_assoc, whole, Nat.add_assoc, ← Nat.mul_two, ← Nat.pow_succ] at far
  exact far

/-! ## Periods -/

/-- The law of the stream, told backwards. -/
theorem back (h : Tapped w f) (n : ℕ) : f n = (f (n + w) ^^ f (n + 1)) := by
  rw [h n, Bool.xor_assoc, Bool.xor_self, Bool.xor_false]

/-- A stream that repeats itself from its second bit on does so from its first. -/
theorem periodic_of_later (h : Tapped w f) (some : 0 < w)
    (later : ∀ n, f (n + 1 + p) = f (n + 1)) : Periodic f p := by
  intro n
  have after {k : ℕ} (pos : 0 < k) : f (n + p + k) = f (n + k) := by
    have past := later (n + (k - 1))
    rwa [show n + (k - 1) + 1 = n + k by omega, Nat.add_right_comm] at past
  rw [h.back (n + p), h.back n, after some, after Nat.one_pos]

/-- A width that is a power of two has the period one below its square. -/
theorem periodic_square (h : Tapped (2 ^ m) f) : Periodic f (2 ^ m * 2 ^ m - 1) := by
  have some : 0 < 2 ^ m := Nat.two_pow_pos m
  refine h.periodic_of_later some fun n => ?_
  have whole : n + 1 + (2 ^ m * 2 ^ m - 1) = n + 2 ^ m * 2 ^ m := by
    have := Nat.mul_pos some some
    omega
  rw [whole, h.leap, h n, ← Bool.xor_assoc, Bool.xor_self, Bool.false_xor]

/-- The period of the width `2 ^ m - 1`, from that of the width `m`. -/
theorem periodic_tower (h : Tapped (2 ^ m - 1) f) (some : 0 < m)
    (low : ∀ g, Tapped m g → Periodic g p) : Periodic f (2 ^ p - 1) := by
  have wide : 0 < 2 ^ m - 1 := Nat.sub_pos_of_lt (Nat.one_lt_two_pow (Nat.ne_of_gt some))
  refine h.periodic_of_later wide fun n => ?_
  have whole : n + 1 + (2 ^ p - 1) = n + 2 ^ p := by
    have := Nat.two_pow_pos p
    omega
  have again := low _ (h.powers n) 0
  rw [Nat.zero_add] at again
  rw [whole]
  exact again

theorem periodic_seven (h : Tapped 7 f) : Periodic f 127 :=
  periodic_tower (m := 3) h (by decide) fun _ three =>
    periodic_tower (m := 2) three (by decide) fun _ two => periodic_square (m := 1) two

theorem periodic_fifteen (h : Tapped 15 f) : Periodic f 32767 :=
  periodic_tower (m := 4) h (by decide) fun _ four => periodic_square (m := 2) four

/-- A stream that repeats itself and is not all zero never comes to rest. -/
theorem changes (h : Tapped w f) (again : Periodic f p) (some : 0 < p) {k : ℕ} (one : f k = true)
    (n : ℕ) : ∃ i, n ≤ i ∧ f (i + 1) ≠ f i := by
  by_contra! rests
  have same (i : ℕ) : f (n + i) = f n := by
    induction i with
    | zero => rfl
    | succ i ih => exact (rests (n + i) (Nat.le_add_right n i)).trans ih
  have zero : f n = false := by
    have now := h n
    rw [same w, same 1, Bool.xor_self] at now
    exact now
  have late : n ≤ k + n * p := (Nat.le_mul_of_pos_right n some).trans (Nat.le_add_left _ k)
  obtain ⟨i, place⟩ := Nat.exists_eq_add_of_le late
  have last := again.nat_mul n k
  rw [Nat.cast_id, place, same i, zero, one] at last
  exact Bool.false_ne_true last

end Tapped

/-! ## All periods -/

/-- The stream from its second bit on. -/
def later (f : ℕ → Bool) : ℕ → Bool :=
  fun n => f (n + 1)

theorem iterate_later (f : ℕ → Bool) (p : ℕ) : later^[p] f = fun n => f (n + p) := by
  induction p with
  | zero => rfl
  | succ p ih =>
    rw [Function.iterate_succ_apply', ih]
    funext n
    exact congrArg f (Nat.add_right_comm n 1 p)

theorem isPeriodicPt_later {f : ℕ → Bool} {p : ℕ} : IsPeriodicPt later p f ↔ Periodic f p := by
  rw [IsPeriodicPt, Function.IsFixedPt, iterate_later, funext_iff]
  rfl

/-- A period is the least one if no prime divides it so that a period is left; all others are its
multiples then. -/
theorem periodic_iff_dvd {f : ℕ → Bool} {p : ℕ} (again : Periodic f p)
    (least : ∀ q, q.Prime → q ∣ p → ¬ Periodic f (p / q)) (n : ℕ) : Periodic f n ↔ p ∣ n := by
  have whole : minimalPeriod later f ∣ p := (isPeriodicPt_later.mpr again).minimalPeriod_dvd
  have minimal : minimalPeriod later f = p := by
    by_contra less
    obtain ⟨k, times⟩ := whole
    have more : k ≠ 1 := fun one => less (by rw [times, one, Nat.mul_one])
    obtain ⟨q, prime, ⟨j, rfl⟩⟩ := Nat.exists_prime_and_dvd more
    have product : p = q * (minimalPeriod later f * j) := times.trans (Nat.mul_left_comm _ q j)
    refine least q prime ⟨_, product⟩ (isPeriodicPt_later.mp ?_)
    rw [Function.isPeriodicPt_iff_minimalPeriod_dvd, product, Nat.mul_div_cancel_left _ prime.pos]
    exact Nat.dvd_mul_right _ j
  rw [← isPeriodicPt_later, Function.isPeriodicPt_iff_minimalPeriod_dvd, minimal]

end DotMatrix
