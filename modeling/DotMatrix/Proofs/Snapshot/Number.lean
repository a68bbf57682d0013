import DotMatrix.Snapshot.Item.Number
import Mathlib.Algebra.Order.Ring.Int
import Mathlib.Tactic.Ring

/-!
# Readers and numbers

A reader takes a value off the front of some bytes and leaves the rest. Two properties of a reader
carry everything that is known about snapshots, and both pass from the parts of a reader to the
whole:

* `Takes read written a`: in front of any bytes, `read` takes exactly `written` off and gives `a`.
* `Local read`: `read` looks at the bytes it takes and at no others.

Results:
* `readBigEndian_takes`: a number that fits its width comes back from its bytes.
* `signed_complement`: a number with a sign comes back from its two's complement.
* `takeExactly_takes`: counted bytes come back.
-/

namespace DotMatrix

namespace Item

section Readers

variable {α β : Type} {read : List UInt8 → Option (α × List UInt8)}
  {more : α → List UInt8 → Option (β × List UInt8)}

/-- In front of any bytes, the reader takes exactly `written` off and gives `a`. -/
def Takes (read : List UInt8 → Option (α × List UInt8)) (written : List UInt8) (a : α) : Prop :=
  ∀ t, read (written ++ t) = some (a, t)

/-- The reader does not look behind the bytes that it takes. -/
def Local (read : List UInt8 → Option (α × List UInt8)) : Prop :=
  ∀ s a rest t, read s = some (a, rest) → read (s ++ t) = some (a, rest ++ t)

theorem Takes.bind {w1 w2 : List UInt8} {a : α} {b : β} (h1 : Takes read w1 a)
    (h2 : Takes (more a) w2 b) :
    Takes (fun s => do let (a, s) ← read s; more a s) (w1 ++ w2) b := by
  intro t
  rw [List.append_assoc]
  simp only [h1 (w2 ++ t), Option.bind_eq_bind, Option.bind_some]
  exact h2 t

theorem Takes.map {w : List UInt8} {a : α} (f : α → β) (h : Takes read w a) :
    Takes (fun s => do let (a, s) ← read s; return (f a, s)) w (f a) := by
  intro t
  simp only [h t, Option.bind_eq_bind, Option.bind_some, Option.pure_def]

theorem Local.bind (h1 : Local read) (h2 : ∀ a, Local (more a)) :
    Local (fun s => do let (a, s) ← read s; more a s) := by
  intro s b rest t h
  simp only [Option.bind_eq_bind] at h ⊢
  obtain ⟨⟨a, s1⟩, hr, hn⟩ := Option.bind_eq_some_iff.mp h
  rw [h1 s a s1 t hr, Option.bind_some]
  exact h2 a s1 b rest t hn

theorem Local.pure (a : α) : Local fun s => some (a, s) := by
  intro s b rest t h
  cases h
  rfl

theorem Local.ite {other : List UInt8 → Option (α × List UInt8)} (c : Prop) [Decidable c]
    (h1 : Local read) (h2 : Local other) : Local (fun s => if c then read s else other s) := by
  by_cases h : c
  · simp only [if_pos h]
    exact h1
  · simp only [if_neg h]
    exact h2

theorem Local.map (f : α → β) (h : Local read) :
    Local (fun s => do let (a, s) ← read s; return (f a, s)) :=
  h.bind fun a => Local.pure (f a)

end Readers

/-! ## Numbers -/

theorem formsOf_eq (width : Nat) : formsOf width = 256 ^ width :=
  rfl

theorem formsOf_succ (width : Nat) : formsOf (width + 1) = formsOf width * 256 :=
  Nat.pow_succ 256 width

theorem readBigEndian_bigEndian (width high n : Nat) (t : List UInt8) :
    readBigEndian width high (bigEndian width n ++ t) =
      some (high * formsOf width + n % formsOf width, t) := by
  induction width generalizing high with
  | zero => simp [readBigEndian, bigEndian, formsOf, Nat.mod_one]
  | succ width ih =>
    rw [bigEndian, List.cons_append, readBigEndian, ih]
    have split : n % (formsOf width * 256) =
        n % formsOf width + formsOf width * (n / formsOf width % 256) := Nat.mod_mul
    have byte : (n / formsOf width).toUInt8.toNat = n / formsOf width % 256 := by simp
    rw [formsOf_succ, split, byte]
    congr 2
    ring

/-- A number that fits its width comes back from its bytes. -/
theorem readBigEndian_takes {width n : Nat} (h : n < formsOf width) :
    Takes (readBigEndian width 0) (bigEndian width n) n := by
  intro t
  rw [readBigEndian_bigEndian, Nat.zero_mul, Nat.zero_add, Nat.mod_eq_of_lt h]

theorem readBigEndian_local (width high : Nat) : Local (readBigEndian width high) := by
  induction width generalizing high with
  | zero => exact Local.pure high
  | succ width ih =>
    intro s n rest t h
    cases s with
    | nil => cases h
    | cons b s => exact ih (high * 256 + b.toNat) s n rest t h

theorem complement_lt (width : Nat) (n : Int) : complement width n < formsOf width := by
  have pos : (0 : Int) < formsOf width := by
    exact_mod_cast Nat.pow_pos (by decide : 0 < 256)
  have low := Int.emod_nonneg n pos.ne'
  have high := Int.emod_lt_of_pos n pos
  unfold complement
  omega

/-- A number in the range of its width comes back from its two's complement. -/
theorem signed_complement {width : Nat} {n : Int} (low : -(formsOf width : Int) ≤ 2 * n)
    (high : 2 * n < formsOf width) : signed width (complement width n) = n := by
  unfold signed complement
  by_cases sign : 0 ≤ n
  · rw [Int.emod_eq_of_lt sign (by omega)]
    split <;> omega
  · have wrapped : n % (formsOf width : Int) = n + formsOf width := by
      rw [← Int.add_emod_right n (formsOf width)]
      exact Int.emod_eq_of_lt (by omega) (by omega)
    rw [wrapped]
    split <;> omega

/-! ## Counted bytes -/

/-- Bytes come back by their count. -/
theorem takeExactly_takes (bytes : List UInt8) :
    Takes (takeExactly bytes.length) bytes bytes := by
  intro t
  simp [takeExactly]

theorem takeExactly_local (n : Nat) : Local (takeExactly n) := by
  intro s bytes rest t h
  simp only [takeExactly, Option.ite_none_right_eq_some, Option.some.injEq, Prod.mk.injEq] at h ⊢
  obtain ⟨count, rfl, rfl⟩ := h
  have enough : n ≤ s.length := by
    rw [List.length_take] at count
    omega
  rw [List.take_append_of_le_length enough, List.drop_append_of_le_length enough]
  exact ⟨count, rfl, rfl⟩

end Item

end DotMatrix
