import DotMatrix.Proofs.Timer.Divider
import Mathlib.Logic.Function.Iterate
import Mathlib.Tactic.IntervalCases

/-!
# What the timer counts

Time is counted cycle by cycle, with the gated divider bit as last seen. In the long run this is
arithmetic: the divider is a sum modulo 65536, TIMA counts up as often as the sum passes a multiple
of the period that TAC selects, and from its first overflow on TIMA goes round from TMA to 255. The
bit as last seen has no part in this, since every operation brings it up to date.

Results:
* `Used.upToDate`: however a timer is used, the bit as last seen is the one of now.
* `passed_succ`: a multiple of the period is passed where the bit below it falls.
* `reloaded_succ`: one count more, for a TIMA that has gone round any number of times.
* `Counted.tick`, `counted_step`: what one cycle adds to a count, and what all of them come to.
* **`step_arithmetic`**: time in closed form, for any number of cycles.
-/

namespace DotMatrix

theorem Interrupt.raise_raise (i : Interrupt) (requests : UInt8) :
    i.raise (i.raise requests) = i.raise requests := by
  rw [raise, raise, UInt8.or_assoc, UInt8.or_self]

namespace Timer

/-! ## Periods -/

/-- How many multiples of `period` are passed in `n` cycles from `start` on. -/
def passed (period start n : Nat) : Nat :=
  (start + n) / period - start / period

/-- The cycles from one count of TIMA to the next, as TAC selects them. -/
def period (tac : UInt8) : Nat :=
  match tac.toNat % 4 with
  | 0 => 2 ^ 10
  | 1 => 2 ^ 4
  | 2 => 2 ^ 6
  | _ => 2 ^ 8

/-- The cycles from one step of the sound sequencer to the next. -/
def sequencerPeriod (doubleSpeed : Bool) : Nat :=
  if doubleSpeed then 2 ^ 14 else 2 ^ 13

/-- How often TIMA counts up in `n` cycles: not at all unless bit 2 of TAC is set. -/
def counts (t : Timer) (n : Nat) : Nat :=
  if t.tac.toNat.testBit 2 then passed (period t.tac) t.div.toNat n else 0

/-- TIMA after `j` counts: past 255 it goes round from TMA to 255. -/
def reloaded (tima tma j : Nat) : Nat :=
  if tima + j ≤ 255 then tima + j else tma + (tima + j - 256) % (256 - tma)

/-- Counting from a number to the next, a bit falls where a multiple of the power above it is
passed. -/
theorem passed_succ (i start n : Nat) :
    passed (2 ^ (i + 1)) start (n + 1) = passed (2 ^ (i + 1)) start n +
      if (start + n).testBit i && !(start + n + 1).testBit i then 1 else 0 := by
  have halves (x : Nat) : x / 2 ^ (i + 1) = x / 2 ^ i / 2 := by
    rw [Nat.pow_succ, Nat.div_div_eq_div_mul]
  have grows : start / 2 ^ i / 2 ≤ (start + n) / 2 ^ i / 2 :=
    Nat.div_le_div_right (Nat.div_le_div_right (Nat.le_add_right start n))
  have next : (start + n + 1) / 2 ^ i = (start + n) / 2 ^ i ∨
      (start + n + 1) / 2 ^ i = (start + n) / 2 ^ i + 1 := by
    rw [Nat.succ_div]
    split
    · exact .inr rfl
    · exact .inl rfl
  simp only [passed, halves, ← Nat.add_assoc, Nat.testBit_eq_decide_div_mod_eq, Bool.and_eq_true,
    Bool.not_eq_true', decide_eq_true_eq, decide_eq_false_iff_not]
  rcases next with same | more
  · rw [same]
    split <;> omega
  · rw [more]
    split <;> omega

theorem passed_zero (period start : Nat) : passed period start 0 = 0 :=
  Nat.sub_self _

/-- One count more: TIMA is one higher, or starts from TMA again after 255. -/
theorem reloaded_succ {tima tma : Nat} (modulo : tma ≤ 255) (j : Nat) :
    reloaded tima tma j ≤ 255 ∧ reloaded tima tma (j + 1) =
      if reloaded tima tma j = 255 then tma else reloaded tima tma j + 1 := by
  unfold reloaded
  by_cases before : tima + j ≤ 255
  · rw [if_pos before]
    refine ⟨before, ?_⟩
    by_cases last : tima + j = 255
    · have none : tima + (j + 1) - 256 = 0 := by omega
      rw [if_pos last, if_neg (by omega), none, Nat.zero_mod, Nat.add_zero]
    · rw [if_neg last, if_pos (by omega), Nat.add_assoc]
  · rw [if_neg before, if_neg (by omega)]
    have round : (tima + j - 256) % (256 - tma) < 256 - tma := Nat.mod_lt _ (by omega)
    have next : tima + (j + 1) - 256 = tima + j - 256 + 1 := by omega
    refine ⟨by omega, ?_⟩
    rw [next]
    by_cases last : (tima + j - 256) % (256 - tma) + 1 = 256 - tma
    · have whole : (tima + j - 256 + 1) % (256 - tma) = 0 := by
        rw [← Nat.mod_add_mod, last, Nat.mod_self]
      rw [whole, if_pos (by omega), Nat.add_zero]
    · have inside : (tima + j - 256 + 1) % (256 - tma) = (tima + j - 256) % (256 - tma) + 1 := by
        rw [← Nat.mod_add_mod, Nat.mod_eq_of_lt (by omega)]
      rw [inside, if_neg (by omega), Nat.add_assoc]

/-! ## The bit as last seen -/

/-- The place of the divider bit that TAC selects. -/
def countPlace (tac : UInt8) : Nat :=
  match tac.toNat % 4 with
  | 0 => 9
  | 1 => 3
  | 2 => 5
  | _ => 7

/-- The gated bit as last seen is the one of now. -/
def UpToDate (t : Timer) : Prop :=
  t.lastSignal = signalAt t.div t.tac

/-- The timers that come about from a new one by time, by writes, and by clearing the divider. -/
inductive Used : Timer → Prop where
  | new : Used {}
  | step {t : Timer} (requests : UInt8) (doubleSpeed : Bool) (n : Nat) :
      Used t → Used ((t.withRequests requests).step doubleSpeed n).timer
  | write {t : Timer} (requests : UInt8) (doubleSpeed : Bool) (addr : UInt16) (val : UInt8) :
      Used t → Used ((t.withRequests requests).write doubleSpeed addr val).timer
  | resetDiv {t : Timer} (requests : UInt8) (doubleSpeed : Bool) :
      Used t → Used ((t.withRequests requests).resetDiv doubleSpeed).timer

theorem period_eq (tac : UInt8) : period tac = 2 ^ (countPlace tac + 1) := by
  unfold period countPlace
  split <;> rfl

theorem sequencerPeriod_eq (doubleSpeed : Bool) :
    sequencerPeriod doubleSpeed = 2 ^ (pacePlace doubleSpeed + 1) := by
  cases doubleSpeed <;> rfl

theorem countPlace_lt (tac : UInt8) : countPlace tac < 16 := by
  unfold countPlace
  split <;> decide

theorem selectedBit_toNat (tac : UInt8) : (selectedBit tac).toNat = 2 ^ countPlace tac := by
  have low : (tac &&& 0x03).toNat = tac.toNat % 4 := by
    rw [UInt8.toNat_and]
    exact Nat.and_two_pow_sub_one_eq_mod tac.toNat 2
  have is (k : UInt8) : (tac &&& 0x03 == k) = decide (tac.toNat % 4 = k.toNat) := by
    rw [Bool.eq_iff_iff, beq_iff_eq, decide_eq_true_iff, ← UInt8.toNat_inj, low]
  unfold selectedBit countPlace
  simp only [is]
  have four : tac.toNat % 4 < 4 := Nat.mod_lt _ (by decide)
  generalize tac.toNat % 4 = k at four
  interval_cases k <;> rfl

/-- The gated bit of the divider, as a number. -/
theorem signalAt_eq (div : UInt16) (tac : UInt8) :
    signalAt div tac = (tac.toNat.testBit 2 && div.toNat.testBit (countPlace tac)) := by
  rw [signalAt, hasBit_bit (i := 2) rfl, and_bit (selectedBit_toNat tac)]

theorem signalAt_zero (tac : UInt8) : signalAt 0 tac = false := by
  rw [signalAt_eq, UInt16.toNat_zero, Nat.zero_testBit, Bool.and_false]

theorem countUp_eq (t : Timer) :
    t.countUp = { t with tima := if t.tima = 0xFF then t.tma else t.tima + 1 } := by
  simp only [countUp, beq_iff_eq]
  split <;> rfl

/-- Whether the gated bit falls with the next cycle. -/
def falling (t : Timer) : Bool :=
  signalAt t.div t.tac && !signalAt (t.div + 1) t.tac

namespace Run

variable (doubleSpeed : Bool) (r : Run)

theorem count_timer : r.count.timer = r.timer.countUp := by
  unfold count
  split <;> rfl

theorem requests_count : r.count.requests =
    if r.timer.tima = 0xFF then Interrupt.timer.raise r.requests else r.requests := by
  simp only [count, beq_iff_eq]
  split <;> rfl

/-- A count has a part in TIMA and in the requests alone. -/
theorem count_upToDate : r.count.timer.UpToDate ↔ r.timer.UpToDate := by
  rw [count_timer, countUp_eq]
  rfl

/-- A cycle brings the bit as last seen up to date. -/
theorem tick_upToDate : (r.tick doubleSpeed).timer.UpToDate := by
  simp only [tick]
  split
  · exact (count_upToDate _).mpr rfl
  · rfl

/-- Of a timer whose bit as last seen is the one of now, TIMA counts where the bit falls. -/
theorem falling_eq (h : r.timer.UpToDate) :
    (r.timer.lastSignal && !signalAt (r.timer.div + 1) r.timer.tac) = r.timer.falling := by
  have seen : r.timer.lastSignal = signalAt r.timer.div r.timer.tac := h
  rw [falling, seen]

theorem tick_timer (h : r.timer.UpToDate) : (r.tick doubleSpeed).timer =
    { r.timer with
      div := r.timer.div + 1
      lastSignal := signalAt (r.timer.div + 1) r.timer.tac
      tima := if r.timer.falling then r.timer.countUp.tima else r.timer.tima } := by
  simp only [tick, falling_eq r h]
  cases r.timer.falling
  · rfl
  · simp only [if_true, count_timer, countUp_eq]

theorem tick_requests (h : r.timer.UpToDate) : (r.tick doubleSpeed).requests =
    if r.timer.falling then r.count.requests else r.requests := by
  simp only [tick, falling_eq r h]
  cases r.timer.falling
  · rfl
  · simp only [if_true, requests_count]

theorem resetDiv_upToDate : (r.resetDiv doubleSpeed).timer.UpToDate :=
  (signalAt_zero _).symm

theorem writeControl_upToDate (val : UInt8) : (r.writeControl val).timer.UpToDate := by
  simp only [writeControl]
  split
  · rw [count_timer, countUp_eq]
    rfl
  · rfl

theorem step_iterate (n : Nat) : r.step doubleSpeed n = (tick doubleSpeed)^[n] r := by
  induction n generalizing r with
  | zero => rfl
  | succ n ih => exact ih (r.tick doubleSpeed)

theorem step_succ (n : Nat) :
    r.step doubleSpeed (n + 1) = (r.step doubleSpeed n).tick doubleSpeed := by
  simp only [step_iterate, Function.iterate_succ_apply']

end Run

/-- **However a timer is used**, the bit as last seen is the one of now. -/
theorem Used.upToDate {t : Timer} (h : t.Used) : t.UpToDate := by
  induction h with
  | new => exact (signalAt_zero 0).symm
  | @step t requests doubleSpeed n _ ih =>
    cases n with
    | zero => exact ih
    | succ n =>
      rw [Run.step_succ]
      exact Run.tick_upToDate doubleSpeed _
  | @write t requests doubleSpeed addr val _ ih =>
    unfold Run.write
    split
    · exact Run.resetDiv_upToDate doubleSpeed _
    · exact ih
    · exact ih
    · exact Run.writeControl_upToDate _ val
    · exact ih
  | resetDiv requests doubleSpeed _ _ => exact Run.resetDiv_upToDate doubleSpeed _

/-! ## Cycle by cycle -/

/-- What a timer has come to after `n` cycles, from `t` and the given requests on. -/
structure Counted (t : Timer) (requests : UInt8) (doubleSpeed : Bool) (n : Nat) (r : Run) :
    Prop where
  div : r.timer.div.toNat = (t.div.toNat + n) % 65536
  tma : r.timer.tma = t.tma
  tac : r.timer.tac = t.tac
  upToDate : r.timer.UpToDate
  edges : r.edges = passed (sequencerPeriod doubleSpeed) t.div.toNat n
  tima : r.timer.tima.toNat = reloaded t.tima.toNat t.tma.toNat (t.counts n)
  requests : r.requests =
    if t.tima.toNat + t.counts n ≤ 255 then requests else Interrupt.timer.raise requests

variable {t : Timer} {requests : UInt8} {doubleSpeed : Bool} {n : Nat} {r : Run}

/-- The divider has the bits of the sum that it counts. -/
theorem Counted.testBit (h : Counted t requests doubleSpeed n r) {i : Nat} (low : i < 16) :
    r.timer.div.toNat.testBit i = (t.div.toNat + n).testBit i := by
  rw [h.div]
  change ((t.div.toNat + n) % 2 ^ 16).testBit i = _
  rw [Nat.testBit_mod_two_pow, decide_eq_true low, Bool.true_and]

theorem Counted.testBit_next (h : Counted t requests doubleSpeed n r) {i : Nat} (low : i < 16) :
    (r.timer.div + 1).toNat.testBit i = (t.div.toNat + n + 1).testBit i := by
  rw [UInt16.toNat_add, h.div, UInt16.toNat_one, Nat.mod_add_mod]
  change ((t.div.toNat + n + 1) % 2 ^ 16).testBit i = _
  rw [Nat.testBit_mod_two_pow, decide_eq_true low, Bool.true_and]

theorem Counted.counts_succ (h : Counted t requests doubleSpeed n r) :
    t.counts (n + 1) = t.counts n + if r.timer.falling then 1 else 0 := by
  have place := countPlace_lt t.tac
  rw [falling, signalAt_eq, signalAt_eq, h.tac, h.testBit place, h.testBit_next place]
  unfold counts
  rw [period_eq, passed_succ]
  cases t.tac.toNat.testBit 2 <;> rfl

theorem Counted.edges_succ (h : Counted t requests doubleSpeed n r) :
    (r.tick doubleSpeed).edges = passed (sequencerPeriod doubleSpeed) t.div.toNat (n + 1) := by
  have place : pacePlace doubleSpeed < 16 := by cases doubleSpeed <;> decide
  rw [Run.tick_edges, h.edges, pace, pace, h.testBit place, h.testBit_next place,
    sequencerPeriod_eq, passed_succ]

/-- **One cycle** more. -/
theorem Counted.tick (h : Counted t requests doubleSpeed n r) :
    Counted t requests doubleSpeed (n + 1) (r.tick doubleSpeed) := by
  have timer := Run.tick_timer doubleSpeed r h.upToDate
  have modulo : t.tma.toNat ≤ 255 := Nat.le_of_lt_succ t.tma.toNat_lt
  obtain ⟨fits, next⟩ := @reloaded_succ t.tima.toNat _ modulo (t.counts n)
  have full : r.timer.tima = 0xFF ↔ reloaded t.tima.toNat t.tma.toNat (t.counts n) = 255 := by
    rw [← h.tima, ← UInt8.toNat_inj]
    rfl
  refine ⟨?_, ?_, ?_, Run.tick_upToDate doubleSpeed r, h.edges_succ, ?_, ?_⟩
  · rw [timer, UInt16.toNat_add, h.div, UInt16.toNat_one, Nat.mod_add_mod, Nat.add_assoc]
  · rw [timer]
    exact h.tma
  · rw [timer]
    exact h.tac
  · rw [timer, h.counts_succ]
    cases r.timer.falling
    · exact h.tima
    · simp only [if_true, next, countUp_eq]
      by_cases last : r.timer.tima = 0xFF
      · rw [if_pos last, if_pos (full.mp last), h.tma]
      · have room := mt full.mpr last
        rw [if_neg last, if_neg room, toNat_add_one (by rw [h.tima]; omega), h.tima]
  · rw [Run.tick_requests doubleSpeed r h.upToDate, h.counts_succ]
    cases r.timer.falling
    · exact h.requests
    · simp only [if_true, Run.requests_count, full, h.requests]
      by_cases before : t.tima.toNat + t.counts n ≤ 255
      · have here : reloaded t.tima.toNat t.tma.toNat (t.counts n) = t.tima.toNat + t.counts n :=
          if_pos before
        rw [here, if_pos before]
        by_cases last : t.tima.toNat + t.counts n = 255
        · rw [if_pos last, if_neg (by omega)]
        · rw [if_neg last, if_pos (by omega)]
      · rw [if_neg before, Interrupt.raise_raise, ite_self, if_neg (by omega)]

theorem counted_zero (h : t.UpToDate) :
    Counted t requests doubleSpeed 0 (t.withRequests requests) := by
  have none : t.counts 0 = 0 := by
    rw [counts, passed_zero, ite_self]
  have fits : t.tima.toNat ≤ 255 := Nat.le_of_lt_succ t.tima.toNat_lt
  refine ⟨?_, rfl, rfl, h, (passed_zero _ _).symm, ?_, ?_⟩
  · exact (Nat.mod_eq_of_lt t.div.toNat_lt).symm
  · rw [none, reloaded, Nat.add_zero, if_pos fits]
    rfl
  · rw [none, Nat.add_zero, if_pos fits]
    rfl

/-- **All the cycles** of some time. -/
theorem counted_step (h : t.UpToDate) (requests : UInt8) (doubleSpeed : Bool) (n : Nat) :
    Counted t requests doubleSpeed n ((t.withRequests requests).step doubleSpeed n) := by
  induction n with
  | zero => exact counted_zero h
  | succ n ih =>
    rw [Run.step_succ]
    exact ih.tick

/-- However a timer is used, the bit as last seen is the one of now. From any timer of which this
holds, `n` cycles are a sum for the divider; the edges are the multiples of 2^13, or in double speed
of 2^14, that the sum passes; and TIMA counts up once for every multiple of its period. It stays
within the byte and requests nothing, or it goes round from TMA to 255 and requests the
interrupt. -/
theorem step_arithmetic :
    (∀ t : Timer, t.Used → t.UpToDate) ∧
      ∀ (t : Timer) (requests : UInt8) (doubleSpeed : Bool) (n : Nat), t.UpToDate →
        let r := (t.withRequests requests).step doubleSpeed n
        let j := t.counts n
        r.timer.div.toNat = (t.div.toNat + n) % 65536 ∧
        r.edges = passed (sequencerPeriod doubleSpeed) t.div.toNat n ∧
        (t.tima.toNat + j ≤ 255 →
          r.timer.tima.toNat = t.tima.toNat + j ∧ r.requests = requests) ∧
        (255 < t.tima.toNat + j →
          r.timer.tima.toNat =
            t.tma.toNat + (t.tima.toNat + j - 256) % (256 - t.tma.toNat) ∧
          r.requests = requests ||| 0x04) ∧
        r.timer.tma = t.tma ∧ r.timer.tac = t.tac ∧ r.timer.UpToDate := by
  refine ⟨fun t used => used.upToDate, ?_⟩
  intro t requests doubleSpeed n upToDate
  have counted := counted_step upToDate requests doubleSpeed n
  refine ⟨counted.div, counted.edges, ?_, ?_, counted.tma, counted.tac, counted.upToDate⟩
  · intro within
    exact ⟨counted.tima.trans (if_pos within), counted.requests.trans (if_pos within)⟩
  · intro past
    have past := Nat.not_le.mpr past
    exact ⟨counted.tima.trans (if_neg past), counted.requests.trans (if_neg past)⟩

/-- With a period of 16, a hundred cycles are six counts: from 253 they are one overflow to 254, and
two more counts, the second of which overflows again. -/
theorem step_arithmetic_overflows :
    let t : Timer := { tima := 0xFD, tma := 0xFE, tac := 0x05 }
    t.Used ∧ t.UpToDate ∧ t.counts 100 = 6 ∧
      ((t.withRequests 0x01).step false 100).timer.tima = 0xFF ∧
      ((t.withRequests 0x01).step false 100).requests = 0x05 := by
  intro t
  have written : t = ((((((({} : Timer).withRequests 0).write false 0xFF05 0xFD).timer.withRequests
      0).write false 0xFF06 0xFE).timer.withRequests 0).write false 0xFF07 0x05).timer := by decide
  have used : t.Used := by
    rw [written]
    exact .write _ _ _ _ (.write _ _ _ _ (.write _ _ _ _ .new))
  obtain ⟨invariant, closed⟩ := step_arithmetic
  have upToDate := invariant t used
  obtain ⟨-, -, -, past, -⟩ := closed t 0x01 false 100 upToDate
  have six : t.counts 100 = 6 := by decide
  have goes : 255 < t.tima.toNat + t.counts 100 := by decide
  obtain ⟨tima, requests⟩ := past goes
  exact ⟨used, upToDate, six, UInt8.toNat_inj.mp (tima.trans (by decide)), requests⟩

end Timer

end DotMatrix
