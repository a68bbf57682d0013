import DotMatrix.Proofs.Taps
import DotMatrix.Proofs.Word
import DotMatrix.Sound.Channel
import Mathlib.Tactic.NormNum.Prime

/-!
# The shift register of the noise channel

With each clock the bits of the register move down, and the sum of the two lowest comes in at the
top. So the bits that leave it make a stream with two taps, and the register shows the part of it
that is still to come. In the narrow form this holds of the low seven bits, whatever stands above
them.

Results:
* **`testBit_shift`**: one clock, bit by bit.
* `testBit_iterate`, `stream_tapped`: the register and its stream.
* `shift_narrow_low`: what the low seven bits depend on in the narrow form.
* `back_iff`, `stream_periodic_iff`: the register is back when the stream repeats itself.
* **`iterate_wide_iff`**, **`iterate_narrow_iff`**: when that is, from `7FFF` on.
* `iterate_moves`, `iterate_ne_zero`: it never comes to rest.
-/

namespace DotMatrix

open Function (Periodic)

namespace Noise

variable {narrow : Bool} {x : UInt16}

/-! ## One clock -/

/-- The sum of the two lowest bits. -/
def tap (x : UInt16) : Bool :=
  x.toNat.testBit 0 ^^ x.toNat.testBit 1

theorem shiftRight_testBit (x : UInt16) (i : ℕ) :
    (x >>> 1).toNat.testBit i = x.toNat.testBit (i + 1) := by
  rw [UInt16.toNat_shiftRight]
  change (x.toNat >>> 1).testBit i = _
  rw [Nat.testBit_shiftRight, Nat.add_comm]

theorem tap_eq (x : UInt16) : (x ^^^ (x >>> 1)) &&& 1 = if tap x then 1 else 0 := by
  have low : ((x ^^^ (x >>> 1)) &&& 1).toNat = (tap x).toNat := by
    rw [UInt16.toNat_and]
    change _ &&& 2 ^ 0 = _
    rw [Nat.and_two_pow, UInt16.toNat_xor, Nat.testBit_xor, shiftRight_testBit, Nat.pow_zero,
      Nat.mul_one, tap]
  rw [← UInt16.toNat_inj, low]
  cases tap x <;> rfl

/-- The bit that comes in, at its place. -/
theorem tap_testBit (x : UInt16) {n : UInt16} {k : ℕ}
    (one : ((1 : UInt16) <<< n).toNat = 2 ^ k) (i : ℕ) :
    ((if tap x then 1 else 0 : UInt16) <<< n).toNat.testBit i =
      (decide (i = k) && tap x) := by
  cases tap x with
  | false => simp
  | true =>
    rw [if_pos rfl, one, Nat.testBit_two_pow, Bool.and_true]
    exact decide_eq_decide.mpr eq_comm

/-- **One clock**, bit by bit: all bits move down, and the sum of the two lowest comes in at bit 14
and, in the narrow form, in place of bit 6. -/
theorem testBit_shift (narrow : Bool) (x : UInt16) {i : ℕ} (inside : i < 16) :
    (shift narrow x).toNat.testBit i =
      if narrow = true ∧ i = 6 then tap x
      else if i = 14 then x.toNat.testBit 15 || tap x
      else x.toNat.testBit (i + 1) := by
  have next : (x >>> 1 ||| (if tap x then 1 else 0 : UInt16) <<< 14).toNat.testBit i =
      if i = 14 then x.toNat.testBit 15 || tap x else x.toNat.testBit (i + 1) := by
    rw [UInt16.toNat_or, Nat.testBit_or, shiftRight_testBit, tap_testBit x (k := 14) rfl]
    by_cases top : i = 14
    · rw [top, decide_eq_true rfl, Bool.true_and, if_pos rfl]
    · rw [decide_eq_false top, Bool.false_and, Bool.or_false, if_neg top]
  have mask : (0xFFBF : UInt16).toNat.testBit i = (i != 6) := by
    clear next
    revert i
    decide
  simp only [shift, tap_eq]
  cases narrow with
  | false =>
    have none : ¬ (false = true ∧ i = 6) := fun six => Bool.false_ne_true six.1
    rw [if_neg Bool.false_ne_true, next, if_neg none]
  | true =>
    rw [if_pos rfl, UInt16.toNat_or, Nat.testBit_or, UInt16.toNat_and, Nat.testBit_and, next, mask,
      tap_testBit x (k := 6) rfl]
    by_cases six : i = 6
    · simp [six]
    · simp [six]

theorem testBit_word {i : ℕ} (outside : 16 ≤ i) (x : UInt16) : x.toNat.testBit i = false :=
  Nat.testBit_lt_two_pow
    (Nat.lt_of_lt_of_le x.toNat_lt (Nat.pow_le_pow_right (by decide) outside))

/-- The register has fifteen bits. -/
theorem shift_lt (narrow : Bool) (x : UInt16) : (shift narrow x).toNat < 2 ^ 15 := by
  refine Nat.lt_pow_two_of_testBit _ fun i high => ?_
  by_cases outside : 16 ≤ i
  · exact testBit_word outside _
  · obtain rfl : i = 15 := by omega
    rw [testBit_shift narrow x (by decide), if_neg (by omega), if_neg (by decide)]
    exact testBit_word le_rfl x

theorem iterate_shift_lt (short : x.toNat < 2 ^ 15) (narrow : Bool) (n : ℕ) :
    ((shift narrow)^[n] x).toNat < 2 ^ 15 := by
  cases n with
  | zero => exact short
  | succ n =>
    rw [Function.iterate_succ_apply']
    exact shift_lt narrow _

theorem shiftMany_eq (narrow : Bool) (n : ℕ) (x : UInt16) :
    shiftMany narrow n x = (shift narrow)^[n] x := by
  induction n generalizing x with
  | zero => rfl
  | succ n ih => exact ih (shift narrow x)

/-! ## The stream of bits -/

/-- How many bits of the register decide the bits that come in. -/
def width (narrow : Bool) : ℕ :=
  if narrow then 7 else 15

/-- The lowest bit of the register after each number of clocks. -/
def stream (narrow : Bool) (x : UInt16) (n : ℕ) : Bool :=
  ((shift narrow)^[n] x).toNat.testBit 0

theorem width_le (narrow : Bool) : width narrow ≤ 15 := by
  cases narrow <;> decide

theorem one_lt_width (narrow : Bool) : 1 < width narrow := by
  cases narrow <;> decide

/-- Below the top of its width, a register holds the bits that are to come. -/
theorem testBit_iterate {i : ℕ} (inside : i < width narrow) (x : UInt16) (n : ℕ) :
    ((shift narrow)^[n] x).toNat.testBit i = stream narrow x (n + i) := by
  induction i generalizing n with
  | zero => rfl
  | succ i ih =>
    have below := width_le narrow
    have six : ¬ (narrow = true ∧ i = 6) := by
      rintro ⟨rfl, rfl⟩
      exact absurd inside (by decide)
    have next := testBit_shift narrow ((shift narrow)^[n] x) (i := i) (by omega)
    rw [if_neg six, if_neg (by omega), ← Function.iterate_succ_apply' (shift narrow)] at next
    rw [← next, ih (by omega), Nat.succ_add_eq_add_succ]

theorem tap_iterate (x : UInt16) (n : ℕ) :
    tap ((shift narrow)^[n] x) = (stream narrow x n ^^ stream narrow x (n + 1)) := by
  have wide := one_lt_width narrow
  rw [tap, testBit_iterate (Nat.zero_lt_of_lt wide), testBit_iterate wide, Nat.add_zero]

/-- **The stream** has two taps: a bit that comes in at the top is the sum of the one that leaves
and the one after it. -/
theorem stream_tapped (short : x.toNat < 2 ^ 15) (narrow : Bool) :
    Tapped (width narrow) (stream narrow x) := by
  intro n
  have top : ((shift narrow)^[n + 1] x).toNat.testBit (width narrow - 1) =
      tap ((shift narrow)^[n] x) := by
    rw [Function.iterate_succ_apply']
    cases narrow with
    | false =>
      have none : ((shift false)^[n] x).toNat.testBit 15 = false :=
        Nat.testBit_lt_two_pow (iterate_shift_lt short false n)
      rw [testBit_shift false _ (by decide), if_neg (by decide), if_pos (by decide), none,
        Bool.false_or]
    | true => rw [testBit_shift true _ (by decide), if_pos (by decide)]
  have some : 0 < width narrow := Nat.zero_lt_of_lt (one_lt_width narrow)
  rw [← tap_iterate, ← top, testBit_iterate (Nat.sub_lt some Nat.one_pos)]
  congr 1
  omega

/-- In the narrow form the low seven bits depend on themselves alone. -/
theorem shift_narrow_low {a b : UInt16} (same : a &&& 0x7F = b &&& 0x7F) :
    shift true a &&& 0x7F = shift true b &&& 0x7F := by
  rw [and_ones_eq_iff (n := 7) rfl] at same ⊢
  intro i low
  rw [testBit_shift true a (by omega), testBit_shift true b (by omega)]
  by_cases six : i = 6
  · rw [if_pos ⟨rfl, six⟩, if_pos ⟨rfl, six⟩, tap, tap, same 0 (by decide), same 1 (by decide)]
  · have other : ¬ (true = true ∧ i = 6) := fun h => six h.2
    rw [if_neg other, if_neg other, if_neg (by omega), if_neg (by omega), same (i + 1) (by omega)]

/-! ## Periods -/

/-- The bits that decide the others are what they were exactly when the stream repeats itself. -/
theorem back_iff (short : x.toNat < 2 ^ 15) (narrow : Bool) (n : ℕ) :
    (∀ i < width narrow, ((shift narrow)^[n] x).toNat.testBit i = x.toNat.testBit i) ↔
      Periodic (stream narrow x) n := by
  have start {i : ℕ} (low : i < width narrow) : x.toNat.testBit i = stream narrow x i :=
    (testBit_iterate low x 0).trans (congrArg _ (Nat.zero_add i))
  have tapped := stream_tapped short narrow
  constructor
  · intro back i
    have same := (tapped.onward n).ext (one_lt_width narrow) tapped fun j low => by
      rw [← testBit_iterate low, back j low, start low]
    rw [Nat.add_comm]
    exact congrFun same i
  · intro again i low
    rw [testBit_iterate low, start low, Nat.add_comm]
    exact again i

/-- The number of values other than zero that the bits can have which decide the others. It takes as
many clocks until the stream from `7FFF` on repeats itself. -/
def period (narrow : Bool) : ℕ :=
  2 ^ width narrow - 1

theorem stream_periodic (narrow : Bool) : Periodic (stream narrow 0x7FFF) (period narrow) := by
  cases narrow with
  | false => exact (stream_tapped (by decide) false).periodic_fifteen
  | true => exact (stream_tapped (by decide) true).periodic_seven

/-- A bit of the wide form that lies far out is the sum of two that lie nearer. -/
theorem stream_leap (short : x.toNat < 2 ^ 15) (n j : ℕ) : stream false x (n + 2 ^ (j + 4)) =
    (stream false x (n + 2 ^ j) ^^ stream false x (n + 2 ^ (j + 1))) :=
  (stream_tapped short false).powers (m := 4) n j

/-- The period cannot be divided by a prime. In the wide form the bits that tell lie far out, and
are had by leaps. -/
theorem stream_least (narrow : Bool) {q : ℕ} (prime : q.Prime) (factor : q ∣ period narrow) :
    ¬ Periodic (stream narrow 0x7FFF) (period narrow / q) := by
  intro again
  cases narrow with
  | true =>
    obtain rfl : q = 127 := (Nat.prime_dvd_prime_iff_eq prime (by norm_num)).mp factor
    exact absurd (again 6) (by decide)
  | false =>
    have factors : q ∣ 7 ∨ q ∣ 31 ∨ q ∣ 151 := by
      have product : q ∣ 7 * (31 * 151) := factor
      rwa [prime.dvd_mul, prime.dvd_mul] at product
    have leap := stream_leap (x := 0x7FFF) (by decide)
    rcases factors with seven | thirtyOne | most
    · obtain rfl : q = 7 := (Nat.prime_dvd_prime_iff_eq prime (by norm_num)).mp seven
      have far : stream false 0x7FFF 4681 = false := calc
        _ = (stream false 0x7FFF 841 ^^ stream false 0x7FFF 1097) := leap 585 8
        _ = ((stream false 0x7FFF 361 ^^ stream false 0x7FFF 393) ^^
            (stream false 0x7FFF 137 ^^ stream false 0x7FFF 201)) :=
          congrArg₂ _ (leap 329 5) (leap 73 6)
        _ = false := by decide +kernel
      exact Bool.false_ne_true (far.symm.trans (again 0))
    · obtain rfl : q = 31 := (Nat.prime_dvd_prime_iff_eq prime (by norm_num)).mp thirtyOne
      have far : stream false 0x7FFF 1057 = false := (leap 33 6).trans (by decide +kernel)
      exact Bool.false_ne_true (far.symm.trans (again 0))
    · obtain rfl : q = 151 := (Nat.prime_dvd_prime_iff_eq prime (by norm_num)).mp most
      have far : stream false 0x7FFF 217 = false := (leap 89 3).trans (by decide +kernel)
      exact Bool.false_ne_true (far.symm.trans (again 0))

/-- **All periods** are multiples of one. -/
theorem stream_periodic_iff (narrow : Bool) (n : ℕ) :
    Periodic (stream narrow 0x7FFF) n ↔ period narrow ∣ n :=
  periodic_iff_dvd (stream_periodic narrow) (fun _ => stream_least narrow) n

/-- The register from `7FFF` on, in the wide form. -/
theorem iterate_wide_iff (n : ℕ) : (shift false)^[n] 0x7FFF = 0x7FFF ↔ 32767 ∣ n := by
  have whole {y : UInt16} (short : y.toNat < 2 ^ 15) : y &&& 0x7FFF = y := by
    rw [← UInt16.toNat_inj, and_ones (n := 15) rfl, Nat.mod_eq_of_lt short]
  have short : (0x7FFF : UInt16).toNat < 2 ^ 15 := by decide
  have ones : (0x7FFF : UInt16).toNat = 2 ^ 15 - 1 := rfl
  have masked := and_ones_eq_iff ones ((shift false)^[n] 0x7FFF) 0x7FFF
  rw [whole (iterate_shift_lt short false n), whole short] at masked
  rw [masked]
  exact (back_iff short false n).trans (stream_periodic_iff false n)

/-- The low seven bits from `7FFF` on, in the narrow form. -/
theorem iterate_narrow_iff (n : ℕ) : (shift true)^[n] 0x7FFF &&& 0x7F = 0x7F ↔ 127 ∣ n := by
  have ones : (0x7F : UInt16).toNat = 2 ^ 7 - 1 := rfl
  have masked := and_ones_eq_iff ones ((shift true)^[n] 0x7FFF) 0x7FFF
  exact masked.trans ((back_iff (by decide) true n).trans (stream_periodic_iff true n))

/-- From `7FFF` on the register never comes to rest. -/
theorem iterate_moves (narrow : Bool) (n : ℕ) :
    shift narrow ((shift narrow)^[n] 0x7FFF) ≠ (shift narrow)^[n] 0x7FFF := by
  intro rests
  have still {i : ℕ} (late : n ≤ i) : (shift narrow)^[i] 0x7FFF = (shift narrow)^[n] 0x7FFF := by
    obtain ⟨k, rfl⟩ := Nat.exists_eq_add_of_le late
    rw [Nat.add_comm, Function.iterate_add_apply]
    exact Function.iterate_fixed rests k
  have some : 0 < period narrow := by
    cases narrow <;> decide
  have one : stream narrow 0x7FFF 0 = true := by cases narrow <;> rfl
  obtain ⟨i, late, change⟩ :=
    (stream_tapped (by decide) narrow).changes (stream_periodic narrow) some one n
  refine change ?_
  rw [stream, stream, still late, still (Nat.le_succ_of_le late)]

theorem shift_zero (narrow : Bool) : shift narrow 0 = 0 := by
  cases narrow <;> decide

theorem iterate_ne_zero (narrow : Bool) (n : ℕ) : (shift narrow)^[n] 0x7FFF ≠ 0 := by
  intro zero
  have moves := iterate_moves narrow n
  rw [zero] at moves
  exact moves (shift_zero narrow)

/-- All this is while the form stays: the narrow one can empty a register that the wide one has
left. -/
example : shift true 0x0080 = 0 := by decide

end Noise

end DotMatrix
