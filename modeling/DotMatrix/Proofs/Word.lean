import DotMatrix.Word
import Mathlib.Data.Nat.Bitwise

/-!
# Facts about bytes and words

What masks leave of a byte or of an address, and what a word is that is made of bytes, as numbers.

Results:
* `one_lt_iff`, `toNat_sub_one`: counting bytes down.
* `and_lt`, `byte_and_ones`, `and_low`, `and_even`, `hasBit_top`, `hasBit_keep`, `hasBit_toggle`:
  bytes and their masks.
* `toInt8_toInt`, `shiftRight_and_one`: bytes with a sign, and their bits.
* `shiftLeft_or_toNat`, `word_toNat`, `word_halves`: words made of bytes.
* `and_ones`, `and_ones_eq_iff`, `and_bank`, `and_block`: addresses and their masks.
-/

namespace DotMatrix

/-! ## Bytes -/

/-- What a mask lets through is no more than the mask. -/
theorem and_lt {mask bound : UInt8} (small : mask < bound) (val : UInt8) : val &&& mask < bound := by
  refine UInt8.lt_iff_toNat_lt.mpr (Nat.lt_of_le_of_lt ?_ (UInt8.lt_iff_toNat_lt.mp small))
  rw [UInt8.toNat_and]
  exact Nat.and_le_right

/-- A mask of ones takes the remainder of a byte. -/
theorem byte_and_ones {mask : UInt8} {n : Nat} (ones : mask.toNat = 2 ^ n - 1) (b : UInt8) :
    (b &&& mask).toNat = b.toNat % 2 ^ n := by
  rw [UInt8.toNat_and, ones, Nat.and_two_pow_sub_one_eq_mod]

theorem one_lt_iff {b : UInt8} : 1 < b ↔ 1 < b.toNat :=
  UInt8.lt_iff_toNat_lt

/-- Counting down a byte that is not empty. -/
theorem toNat_sub_one {b : UInt8} (some : b.toNat ≠ 0) : (b - 1).toNat = b.toNat - 1 :=
  UInt8.toNat_sub_of_le _ _ (UInt8.le_iff_toNat_le.mpr (Nat.pos_of_ne_zero some))

/-- The upper half of the bytes has bit 7. -/
theorem hasBit_top {b : UInt8} (h : b.toNat < 128) : hasBit b 0x80 = false := by
  have none : b &&& 0x80 = 0 := by
    apply UInt8.toNat_inj.mp
    rw [UInt8.toNat_and]
    change b.toNat &&& 2 ^ 7 = 0
    rw [Nat.and_two_pow, Nat.testBit_lt_two_pow h]
    rfl
  rw [hasBit, none]
  decide

theorem and_low {b : UInt8} (h : b.toNat < 128) : b &&& 0x7F = b := by
  apply UInt8.toNat_inj.mp
  rw [UInt8.toNat_and]
  exact Nat.and_two_pow_sub_one_of_lt_two_pow (n := 7) h

/-- Bit 7 is kept, and bit 0 exchanged. -/
theorem hasBit_keep (b val : UInt8) : hasBit ((b &&& 0x80) ||| (val &&& 0x01)) 0x80 = hasBit b 0x80 := by
  have kept : b &&& 0x80 &&& 0x80 = b &&& 0x80 := by rw [UInt8.and_assoc, UInt8.and_self]
  have low : val &&& 0x01 &&& 0x80 = 0 := by
    rw [UInt8.and_assoc]
    exact UInt8.and_zero
  rw [hasBit_or, hasBit, hasBit, kept, low]
  exact Bool.or_false _

/-- Bit 7 turns over. -/
theorem hasBit_toggle (b : UInt8) : hasBit ((b &&& 0x80) ^^^ 0x80) 0x80 = !hasBit b 0x80 := by
  have top : b &&& 0x80 = 0 ∨ b &&& 0x80 = 0x80 := by
    simp only [← UInt8.toNat_inj, UInt8.toNat_and]
    change b.toNat &&& 2 ^ 7 = 0 ∨ b.toNat &&& 2 ^ 7 = 2 ^ 7
    rw [Nat.and_two_pow]
    cases b.toNat.testBit 7 <;> simp
  rcases top with clear | set
  · rw [hasBit, hasBit, clear]
    decide
  · rw [hasBit, hasBit, set]
    decide

/-- Without its lowest bit a byte is even. -/
theorem and_even (b : UInt8) : (b &&& 0xFE).toNat = 2 * (b.toNat / 2) := by
  have upper : (b.toNat &&& 254) / 2 = b.toNat / 2 := by
    rw [Nat.and_div_two]
    exact Nat.and_two_pow_sub_one_of_lt_two_pow (n := 7) (by have := b.toNat_lt; omega)
  have lower : (b.toNat &&& 254) % 2 = 0 := by
    have clear : (b.toNat &&& 254).testBit 0 = false := by
      rw [Nat.testBit_and]
      exact Bool.and_false _
    rw [Nat.testBit_zero, decide_eq_false_iff_not] at clear
    omega
  rw [UInt8.toNat_and]
  change b.toNat &&& 254 = _
  omega

/-- A byte in two's complement. -/
theorem toInt8_toInt (b : UInt8) :
    b.toInt8.toInt = if b.toNat < 128 then (b.toNat : Int) else (b.toNat : Int) - 256 := by
  change b.toBitVec.toInt = _
  rw [BitVec.toInt_eq_toNat_cond]
  change (if 2 * b.toNat < 2 ^ 8 then (b.toNat : Int)
    else (b.toNat : Int) - ((2 ^ 8 : Nat) : Int)) = _
  have half : 2 * b.toNat < 2 ^ 8 ↔ b.toNat < 128 := by omega
  simp only [half]
  rfl

/-! ## Words -/

/-- A byte moved up makes room for another: the word of both is their sum. -/
theorem shiftLeft_or_toNat {high low : UInt8} {n : UInt16} (few : n.toNat ≤ 8)
    (fits : low.toNat < 2 ^ n.toNat) :
    (high.toUInt16 <<< n ||| low.toUInt16).toNat = 2 ^ n.toNat * high.toNat + low.toNat := by
  have room : 2 ^ n.toNat ≤ 2 ^ 8 := Nat.pow_le_pow_right (by decide) few
  have bound : high.toNat * 2 ^ n.toNat < 2 ^ 16 :=
    Nat.lt_of_lt_of_le (Nat.mul_lt_mul_of_lt_of_le high.toNat_lt room (by decide)) (by decide)
  have shift : n.toNat % 16 = n.toNat := Nat.mod_eq_of_lt (by omega)
  rw [UInt16.toNat_or, UInt16.toNat_shiftLeft, UInt8.toNat_toUInt16, UInt8.toNat_toUInt16, shift,
    Nat.shiftLeft_eq, Nat.mod_eq_of_lt bound, ← Nat.shiftLeft_eq,
    ← Nat.shiftLeft_add_eq_or_of_lt fits, Nat.shiftLeft_eq, Nat.mul_comm]

theorem word_toNat (high low : UInt8) : (word high low).toNat = 256 * high.toNat + low.toNat :=
  shiftLeft_or_toNat (by decide) low.toNat_lt

/-- A word is made of its bytes. -/
theorem word_halves (w : UInt16) : word (highByte w) (lowByte w) = w := by
  have high : (highByte w).toNat = w.toNat / 256 := by
    have word := w.toNat_lt
    change (w >>> 8).toNat % 256 = _
    rw [UInt16.toNat_shiftRight]
    change w.toNat >>> 8 % 256 = _
    rw [Nat.shiftRight_eq_div_pow]
    omega
  have low : (lowByte w).toNat = w.toNat % 256 := rfl
  apply UInt16.toNat_inj.mp
  rw [word_toNat, high, low]
  omega

/-- A mask of ones takes the remainder. -/
theorem and_ones {mask : UInt16} {n : Nat} (ones : mask.toNat = 2 ^ n - 1) (addr : UInt16) :
    (addr &&& mask).toNat = addr.toNat % 2 ^ n := by
  rw [UInt16.toNat_and, ones, Nat.and_two_pow_sub_one_eq_mod]

/-- A mask of ones compares the low bits. -/
theorem and_ones_eq_iff {mask : UInt16} {n : Nat} (ones : mask.toNat = 2 ^ n - 1) (a b : UInt16) :
    a &&& mask = b &&& mask ↔ ∀ i < n, a.toNat.testBit i = b.toNat.testBit i := by
  rw [← UInt16.toNat_inj, and_ones ones, and_ones ones]
  constructor
  · intro same i low
    have bit := congrArg (Nat.testBit · i) same
    simpa only [Nat.testBit_mod_two_pow, decide_eq_true low, Bool.true_and] using bit
  · intro same
    refine Nat.eq_of_testBit_eq fun i => ?_
    rw [Nat.testBit_mod_two_pow, Nat.testBit_mod_two_pow]
    by_cases low : i < n
    · rw [same i low]
    · rw [decide_eq_false low, Bool.false_and, Bool.false_and]

/-- A bank of video memory is addressed modulo its size. -/
theorem and_bank (addr : UInt16) : (addr &&& 0x1FFF).toNat = addr.toNat % 0x2000 :=
  and_ones (n := 13) rfl addr

/-- Of an address of a block the lower four bits are clear, whether they are masked or not. -/
theorem and_block {addr : UInt16} (whole : addr.toNat % 16 = 0) :
    (addr &&& 0x1FF0).toNat = addr.toNat % 0x2000 := by
  have low : addr.toNat &&& 0xF = 0 :=
    (Nat.and_two_pow_sub_one_eq_mod addr.toNat 4).trans whole
  have split : addr.toNat &&& 0x1FFF = addr.toNat &&& 0x1FF0 ||| addr.toNat &&& 0xF := by
    rw [← Nat.and_or_distrib_left]
    rfl
  rw [← and_bank, UInt16.toNat_and, UInt16.toNat_and]
  change _ = addr.toNat &&& 0x1FFF
  rw [split, low, Nat.or_zero]
  rfl

/-- A mask of one bit tests that bit. -/
theorem and_bit {mask : UInt16} {i : Nat} (one : mask.toNat = 2 ^ i) (w : UInt16) :
    (w &&& mask != 0) = w.toNat.testBit i := by
  have left : (w &&& mask).toNat = (w.toNat.testBit i).toNat * 2 ^ i := by
    rw [UInt16.toNat_and, one, Nat.and_two_pow]
  have zero : w &&& mask = 0 ↔ w.toNat.testBit i = false := by
    rw [← UInt16.toNat_inj, left]
    cases w.toNat.testBit i <;> simp
  cases bit : w.toNat.testBit i with
  | false =>
    rw [zero.mpr bit]
    rfl
  | true =>
    refine bne_iff_ne.mpr fun none => ?_
    rw [zero.mp none] at bit
    cases bit

theorem hasBit_bit {mask : UInt8} {i : Nat} (one : mask.toNat = 2 ^ i) (b : UInt8) :
    hasBit b mask = b.toNat.testBit i := by
  have wide : hasBit b mask = (b.toUInt16 &&& mask.toUInt16 != 0) := by
    rw [hasBit, ← UInt8.toUInt16_and, Bool.eq_iff_iff, bne_iff_ne, bne_iff_ne, ne_eq, ne_eq,
      ← UInt8.toUInt16_inj]
    rfl
  rw [wide, and_bit (by rwa [UInt8.toNat_toUInt16]), UInt8.toNat_toUInt16]

/-- A byte is part of itself with more bits. -/
theorem and_or_self (a b : UInt8) : a &&& (a ||| b) = a := by
  apply UInt8.toNat_inj.mp
  refine Nat.eq_of_testBit_eq fun i => ?_
  rw [UInt8.toNat_and, UInt8.toNat_or, Nat.testBit_and, Nat.testBit_or]
  cases a.toNat.testBit i <;> rfl

/-- One bit of a byte, shifted down. -/
theorem shiftRight_and_one (b : UInt8) {n : Nat} (h : n < 8) :
    ((b >>> n.toUInt8) &&& 1).toNat = (b.toNat.testBit n).toNat := by
  have few : n.toUInt8.toNat = n := Nat.mod_eq_of_lt (by omega)
  rw [UInt8.toNat_and, UInt8.toNat_shiftRight, few, Nat.mod_eq_of_lt h, Nat.toNat_testBit,
    Nat.shiftRight_eq_div_pow]
  exact Nat.and_one_is_mod _

theorem add_one_add_toUInt16 (addr : UInt16) (n : Nat) :
    addr + 1 + n.toUInt16 = addr + (n + 1).toUInt16 := by
  have sum : (n + 1).toUInt16 = n.toUInt16 + 1 := UInt16.ofNat_add n 1
  rw [sum, UInt16.add_assoc, UInt16.add_comm 1]

theorem ne_add_one (addr : UInt16) : addr ≠ addr + 1 := by
  grind

theorem ne_sub_one (addr : UInt16) : addr ≠ addr - 1 := by
  grind

end DotMatrix
