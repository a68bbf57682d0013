import DotMatrix.Interrupt
import DotMatrix.Proofs.Word
import Mathlib.Tactic.IntervalCases

/-!
# The request byte

The devices raise requests, each its own bit; five bits of the byte are used. `Added` says that
nothing else has happened to the byte. Of the requests that are pending the one with the lowest bit
is served.

Results:
* `Added.trans`, `Added.raise`: requests are added one by one.
* `mask_eq`, `vector_eq`: masks and handlers by number.
* **`first_lowest`**: the request that is served.
-/

namespace DotMatrix

namespace Interrupt

/-! ## Added requests -/

/-- No bit of the request byte has been cleared, and none of the upper three has changed. -/
structure Added (before after : UInt8) : Prop where
  kept : before &&& after = before
  unused : after &&& 0xE0 = before &&& 0xE0

theorem Added.refl (requests : UInt8) : Added requests requests :=
  ⟨UInt8.and_self, rfl⟩

theorem Added.trans {a b c : UInt8} (h : Added a b) (h' : Added b c) : Added a c where
  kept := calc
    a &&& c = a &&& b &&& c := by rw [h.kept]
    _ = a &&& (b &&& c) := UInt8.and_assoc a b c
    _ = a := by rw [h'.kept, h.kept]
  unused := h'.unused.trans h.unused

theorem Added.raise {before after : UInt8} (h : Added before after) (i : Interrupt) :
    Added before (i.raise after) := by
  have used : i.mask &&& 0xE0 = 0 := by
    cases i <;> decide
  refine h.trans ⟨and_or_self after i.mask, ?_⟩
  rw [Interrupt.raise, or_and, used, UInt8.or_zero]

/-! ## Masks and handlers -/

/-- The number of the bit of a source. -/
def number : Interrupt → Nat
  | vblank => 0
  | stat => 1
  | timer => 2
  | serial => 3
  | joypad => 4

theorem number_lt (i : Interrupt) : i.number < 5 := by
  cases i <;> decide

theorem mask_eq (i : Interrupt) : i.mask = 1 <<< i.number.toUInt8 := by
  cases i <;> decide

theorem vector_eq (i : Interrupt) : i.vector = 0x40 + 8 * i.number.toUInt16 := by
  cases i <;> decide

theorem hasBit_mask (i : Interrupt) (b : UInt8) : hasBit b i.mask = b.toNat.testBit i.number :=
  hasBit_bit (by cases i <;> rfl) b

theorem first_eq (p : UInt8) : first p =
    if p.toNat.testBit 0 then vblank
    else if p.toNat.testBit 1 then stat
    else if p.toNat.testBit 2 then timer
    else if p.toNat.testBit 3 then serial
    else joypad := by
  have bit (i : Interrupt) : (p &&& i.mask != 0) = p.toNat.testBit i.number := hasBit_mask i p
  change (if p &&& vblank.mask != 0 then vblank
    else if p &&& stat.mask != 0 then stat
    else if p &&& timer.mask != 0 then timer
    else if p &&& serial.mask != 0 then serial
    else joypad) = _
  simp only [bit, number]

/-- **The request that is served** is the one with the lowest bit. -/
theorem first_lowest {p : UInt8} (some : p ≠ 0) (used : p.toNat < 32) :
    p.toNat.testBit (first p).number = true ∧
      ∀ j < (first p).number, p.toNat.testBit j = false := by
  rw [first_eq]
  split_ifs with bit0 bit1 bit2 bit3
  case neg =>
    have lower : ∀ j < 4, p.toNat.testBit j = false := by
      intro j lower
      interval_cases j <;> exact Bool.eq_false_iff.mpr (by assumption)
    refine ⟨?_, lower⟩
    by_contra none
    refine some (UInt8.toNat_inj.mp (Nat.zero_of_testBit_eq_false fun j => ?_))
    rcases Nat.lt_trichotomy j 4 with below | rfl | above
    · exact lower j below
    · exact Bool.eq_false_iff.mpr none
    · exact Nat.testBit_lt_two_pow (Nat.lt_of_lt_of_le used (Nat.pow_le_pow_right Nat.two_pos above))
  all_goals
    refine ⟨by assumption, fun j lower => ?_⟩
    simp only [number] at lower
    interval_cases j <;> exact Bool.eq_false_iff.mpr (by assumption)

end Interrupt

end DotMatrix
