import DotMatrix.Cpu.Execute
import DotMatrix.Proofs.Word
import Mathlib.Data.Nat.Digits.Defs

/-!
# Decimal arithmetic

A decimal byte holds two digits. An addition with carry and the correction after it add such bytes, a
subtraction with borrow and the same correction subtract them: the flags of the first instruction tell
the second where a digit has passed its end. Numbers of any length are added and subtracted byte by
byte, with the carry flag handed on.

Results:
* `add_value`, `add_flags`, `sub_value`, `sub_flags`, `adjustSum_spec`, `adjustDifference_spec`: the
  operations as arithmetic on numbers.
* `adjust_add`, `adjust_sub`: one byte, with a carry or a borrow.
* `DecimalRun.sum`, `DecimalRun.difference`: rows of bytes.
* **`decimal_arithmetic`**: the numbers that come out.
-/

namespace DotMatrix

namespace Arithmetic

/-- Both halves of the byte are digits. -/
def IsDecimal (b : UInt8) : Prop :=
  b.toNat / 16 ≤ 9 ∧ b.toNat % 16 ≤ 9

instance (b : UInt8) : Decidable (IsDecimal b) :=
  inferInstanceAs (Decidable (_ ∧ _))

/-- The number that two digits stand for. -/
def decimal (b : UInt8) : Nat :=
  10 * (b.toNat / 16) + b.toNat % 16

/-! ## Flags -/

/-- The flags after an addition, each by itself. -/
theorem flags_sum : ∀ z h k : Bool,
    let f := Flag.when z Flag.zero ||| Flag.when h Flag.half ||| Flag.when k Flag.carry
    hasBit f Flag.subtract = false ∧ hasBit f Flag.half = h ∧ hasBit f Flag.carry = k := by
  decide

/-- The flags after a subtraction. -/
theorem flags_difference : ∀ z h k : Bool,
    let f := Flag.when z Flag.zero ||| Flag.subtract ||| Flag.when h Flag.half |||
      Flag.when k Flag.carry
    hasBit f Flag.subtract = true ∧ hasBit f Flag.half = h ∧ hasBit f Flag.carry = k := by
  decide

/-- The carry flag after either correction. -/
theorem flags_adjusted : ∀ z k : Bool,
    hasBit (Flag.when z Flag.zero ||| Flag.when k Flag.carry) Flag.carry = k ∧
    hasBit (Flag.subtract ||| Flag.when z Flag.zero ||| Flag.when k Flag.carry) Flag.carry = k := by
  decide

variable (a b f : UInt8) (c : Bool)

theorem carryBit_toNat : (carryBit c).toNat = c.toNat := by
  cases c <;> rfl

theorem carry_toNat : c.toNat = if c = true then 1 else 0 := by
  cases c <;> rfl

theorem nibble_toNat : (a &&& 0x0F).toNat = a.toNat % 16 :=
  byte_and_ones (n := 4) rfl a

/-- Two halves of bytes and a carry are no more than 31. -/
theorem nibbles_toNat :
    ((a &&& 0x0F) + (b &&& 0x0F) + carryBit c).toNat = a.toNat % 16 + b.toNat % 16 + c.toNat := by
  have bit := Bool.toNat_le c
  simp only [UInt8.toNat_add, nibble_toNat, carryBit_toNat]
  omega

theorem nibble_carry_toNat : ((b &&& 0x0F) + carryBit c).toNat = b.toNat % 16 + c.toNat := by
  have bit := Bool.toNat_le c
  simp only [UInt8.toNat_add, nibble_toNat, carryBit_toNat]
  omega

/-- Two bytes and a carry fit into a word. -/
theorem bytes_toNat :
    (a.toUInt16 + b.toUInt16 + (carryBit c).toUInt16).toNat = a.toNat + b.toNat + c.toNat := by
  have left := a.toNat_lt
  have right := b.toNat_lt
  have bit := Bool.toNat_le c
  simp only [UInt16.toNat_add, UInt8.toNat_toUInt16, carryBit_toNat]
  omega

theorem byte_carry_toNat : (b.toUInt16 + (carryBit c).toUInt16).toNat = b.toNat + c.toNat := by
  have byte := b.toNat_lt
  have bit := Bool.toNat_le c
  simp only [UInt16.toNat_add, UInt8.toNat_toUInt16, carryBit_toNat]
  omega

theorem add_value : (add a b c).value.toNat = (a.toNat + b.toNat + c.toNat) % 256 := by
  simp only [add, UInt8.toNat_add, carryBit_toNat]
  omega

theorem add_flags :
    hasBit (add a b c).flags Flag.subtract = false ∧
    hasBit (add a b c).flags Flag.half = decide (15 < a.toNat % 16 + b.toNat % 16 + c.toNat) ∧
    hasBit (add a b c).flags Flag.carry = decide (255 < a.toNat + b.toNat + c.toNat) := by
  simp only [add, UInt8.lt_iff_toNat_lt, UInt16.lt_iff_toNat_lt, nibbles_toNat, bytes_toNat]
  exact flags_sum _ _ _

theorem sub_value :
    (sub a b c).value.toNat = (a.toNat + 512 - b.toNat - c.toNat) % 256 := by
  have byte := b.toNat_lt
  have bit := Bool.toNat_le c
  simp only [sub, UInt8.toNat_sub, carryBit_toNat]
  omega

theorem sub_flags :
    hasBit (sub a b c).flags Flag.subtract = true ∧
    hasBit (sub a b c).flags Flag.half = decide (a.toNat % 16 < b.toNat % 16 + c.toNat) ∧
    hasBit (sub a b c).flags Flag.carry = decide (a.toNat < b.toNat + c.toNat) := by
  simp only [sub, UInt8.lt_iff_toNat_lt, UInt16.lt_iff_toNat_lt, nibble_toNat, nibble_carry_toNat,
    byte_carry_toNat, UInt8.toNat_toUInt16]
  exact flags_difference _ _ _

theorem raised_toNat (k : Bool) (d : UInt8) :
    (if k then a + d else a).toNat = (a.toNat + if k then d.toNat else 0) % 256 := by
  cases k with
  | false => exact (Nat.mod_eq_of_lt a.toNat_lt).symm
  | true => exact UInt8.toNat_add a d

theorem lowered_toNat (k : Bool) (d : UInt8) :
    (if k then a - d else a).toNat = (a.toNat + 256 - if k then d.toNat else 0) % 256 := by
  have left := a.toNat_lt
  have right := d.toNat_lt
  cases k with
  | false => exact ((Nat.add_mod_right _ _).trans (Nat.mod_eq_of_lt left)).symm
  | true =>
    change (a - d).toNat = (a.toNat + 256 - d.toNat) % 256
    rw [UInt8.toNat_sub]
    omega

/-- The correction of the upper digit leaves the lower one as it was. -/
theorem adjustSum_spec :
    hasBit (adjustSum a f).flags Flag.carry = (hasBit f Flag.carry || decide (153 < a.toNat)) ∧
    (adjustSum a f).value.toNat = (a.toNat +
      (if hasBit f Flag.carry || decide (153 < a.toNat) then 96 else 0) +
      (if hasBit f Flag.half || decide (9 < a.toNat % 16) then 6 else 0)) % 256 := by
  refine ⟨(flags_adjusted _ _).1, ?_⟩
  have high (k : Bool) : (a.toNat + if k then 96 else 0) % 256 % 16 = a.toNat % 16 := by
    split <;> omega
  simp only [adjustSum, raised_toNat, UInt8.lt_iff_toNat_lt, nibble_toNat]
  change ((a.toNat + if _ then 96 else 0) % 256 +
    if (_ || decide (9 < (a.toNat + if _ then 96 else 0) % 256 % 16)) = true then 6 else 0) % 256 = _
  rw [high, Nat.mod_add_mod]
  rfl

theorem adjustDifference_spec :
    hasBit (adjustDifference a f).flags Flag.carry = hasBit f Flag.carry ∧
    (adjustDifference a f).value.toNat = (a.toNat + 256 -
      (if hasBit f Flag.carry then 96 else 0) - (if hasBit f Flag.half then 6 else 0)) % 256 := by
  refine ⟨(flags_adjusted _ _).2, ?_⟩
  simp only [adjustDifference, lowered_toNat]
  change ((a.toNat + 256 - if _ then 96 else 0) % 256 + 256 - if _ then 6 else 0) % 256 = _
  split <;> split <;> omega

/-! ## One byte -/

variable {x y : UInt8}

/-- The corrected sum of two decimal bytes is decimal. The cases are those of the two tests that the
correction makes; in each the sums of the digits are known up to a carry. -/
theorem adjust_add (left : IsDecimal x) (right : IsDecimal y) :
    IsDecimal (adjust (add x y c).value (add x y c).flags).value ∧
    decimal (adjust (add x y c).value (add x y c).flags).value +
      100 * (hasBit (adjust (add x y c).value (add x y c).flags).flags Flag.carry).toNat =
      decimal x + decimal y + c.toNat := by
  obtain ⟨plus, half, carry⟩ := add_flags x y c
  obtain ⟨raised, value⟩ := adjustSum_spec (add x y c).value (add x y c).flags
  rw [adjust, if_neg (by simp [plus]), raised]
  rw [half, carry, add_value] at value
  rw [carry, add_value]
  have bit := Bool.toNat_le c
  unfold IsDecimal decimal at *
  generalize (adjustSum _ _).value.toNat = r at *
  generalize c.toNat = c at *
  simp only [carry_toNat, Bool.or_eq_true, decide_eq_true_eq] at *
  split_ifs at * <;> omega

/-- The corrected difference of two decimal bytes is decimal, too: here both tests read flags. -/
theorem adjust_sub (left : IsDecimal x) (right : IsDecimal y) :
    IsDecimal (adjust (sub x y c).value (sub x y c).flags).value ∧
    decimal (adjust (sub x y c).value (sub x y c).flags).value + decimal y + c.toNat =
      decimal x +
        100 * (hasBit (adjust (sub x y c).value (sub x y c).flags).flags Flag.carry).toNat := by
  obtain ⟨minus, half, borrow⟩ := sub_flags x y c
  obtain ⟨kept, value⟩ := adjustDifference_spec (sub x y c).value (sub x y c).flags
  rw [adjust, if_pos minus, kept]
  rw [half, borrow, sub_value] at value
  rw [borrow]
  have bit := Bool.toNat_le c
  unfold IsDecimal decimal at *
  generalize (adjustDifference _ _).value.toNat = r at *
  generalize c.toNat = c at *
  simp only [carry_toNat, decide_eq_true_eq] at *
  split_ifs at * <;> omega

/-- The number that bytes of two digits stand for, the least significant byte first. -/
def number (bs : List UInt8) : Nat :=
  Nat.ofDigits 100 (bs.map decimal)

theorem number_cons (bs : List UInt8) : number (a :: bs) = decimal a + 100 * number bs :=
  Nat.ofDigits_cons

end Arithmetic

open Arithmetic

namespace Core

/-- The instruction is an operation on A and a byte: an operand, or the byte that follows. -/
inductive Applies (m : Core) (operation : Operation) (val : UInt8) : Instruction → Prop
  | operand {o : Operand} (h : m.operand o = val) : Applies m operation val (.compute operation o)
  | immediate (h : m.immediate = val) : Applies m operation val (.computeByte operation)

/-- A run of an operation and the decimal correction over two rows of bytes, which gives a third: the
least significant bytes come first. Before a byte, and before its correction, the machine may do
whatever leaves alone the carry flag, or A and the flags. -/
inductive DecimalRun (operation : Operation) :
    Core → List UInt8 → List UInt8 → List UInt8 → Core → Prop
  | done (m : Core) : DecimalRun operation m [] [] [] m
  | byte {m ready computed last : Core} {y : UInt8} {i : Instruction} {xs ys zs : List UInt8}
      (carried : ready.cpu.flag Flag.carry = m.cpu.flag Flag.carry)
      (applies : ready.Applies operation y i)
      (value : computed.cpu.a = (ready.execute i).cpu.a)
      (flags : computed.cpu.f = (ready.execute i).cpu.f)
      (rest : DecimalRun operation (computed.execute .adjustA) xs ys zs last) :
      DecimalRun operation m (ready.cpu.a :: xs) (y :: ys)
        ((computed.execute .adjustA).cpu.a :: zs) last

variable {m ready computed last : Core} {operation : Operation} {y : UInt8} {i : Instruction}
  {xs ys zs : List UInt8}

theorem Applies.result (h : m.Applies operation y i) :
    (m.execute i).cpu.a = (m.cpu.operate operation y).value ∧
    (m.execute i).cpu.f = (m.cpu.operate operation y).flags := by
  cases h with
  | operand h =>
    subst h
    exact ⟨rfl, rfl⟩
  | immediate h =>
    subst h
    cases operation <;> exact ⟨rfl, rfl⟩

/-- What the correction makes of the result of an operation. -/
theorem Applies.adjusted (h : ready.Applies operation y i)
    (value : computed.cpu.a = (ready.execute i).cpu.a)
    (flags : computed.cpu.f = (ready.execute i).cpu.f) :
    let result := ready.cpu.operate operation y
    (computed.execute .adjustA).cpu.a = (adjust result.value result.flags).value ∧
    (computed.execute .adjustA).cpu.flag Flag.carry =
      hasBit (adjust result.value result.flags).flags Flag.carry := by
  obtain ⟨a, f⟩ := h.result
  intro result
  rw [← a, ← f, ← value, ← flags]
  exact ⟨rfl, rfl⟩

/-- One byte of an addition. -/
theorem Applies.sum (h : ready.Applies .adc y i)
    (value : computed.cpu.a = (ready.execute i).cpu.a)
    (flags : computed.cpu.f = (ready.execute i).cpu.f)
    (left : IsDecimal ready.cpu.a) (right : IsDecimal y) :
    IsDecimal (computed.execute .adjustA).cpu.a ∧
    decimal (computed.execute .adjustA).cpu.a +
      100 * ((computed.execute .adjustA).cpu.flag Flag.carry).toNat =
      decimal ready.cpu.a + decimal y + (ready.cpu.flag Flag.carry).toNat := by
  obtain ⟨byte, carry⟩ := h.adjusted value flags
  rw [byte, carry]
  exact adjust_add (ready.cpu.flag Flag.carry) left right

/-- One byte of a subtraction. -/
theorem Applies.difference (h : ready.Applies .sbc y i)
    (value : computed.cpu.a = (ready.execute i).cpu.a)
    (flags : computed.cpu.f = (ready.execute i).cpu.f)
    (left : IsDecimal ready.cpu.a) (right : IsDecimal y) :
    IsDecimal (computed.execute .adjustA).cpu.a ∧
    decimal (computed.execute .adjustA).cpu.a + decimal y + (ready.cpu.flag Flag.carry).toNat =
      decimal ready.cpu.a +
        100 * ((computed.execute .adjustA).cpu.flag Flag.carry).toNat := by
  obtain ⟨byte, borrow⟩ := h.adjusted value flags
  rw [byte, borrow]
  exact adjust_sub (ready.cpu.flag Flag.carry) left right

/-! ## Rows of bytes -/

theorem exists_decimalRun (operation : Operation) (m : Core) (same : xs.length = ys.length) :
    ∃ zs last, DecimalRun operation m xs ys zs last := by
  induction xs generalizing ys m with
  | nil =>
    cases List.length_eq_zero_iff.mp same.symm
    exact ⟨[], m, .done m⟩
  | cons x xs ih =>
    cases ys with
    | nil => cases same
    | cons y ys =>
      let ready := m.onCpu fun r => { r with a := x, b := y }
      let computed := ready.execute (.compute operation .b)
      obtain ⟨zs, last, rest⟩ := ih (computed.execute .adjustA) (Nat.succ.inj same)
      have run : DecimalRun operation m (ready.cpu.a :: xs) (y :: ys)
          ((computed.execute .adjustA).cpu.a :: zs) last :=
        .byte rfl (.operand rfl) rfl rfl rest
      exact ⟨_, last, run⟩

/-- A carry is worth a hundred times as much one byte on. -/
theorem shifted_carry (n : Nat) (c : Bool) : 100 ^ (n + 1) * c.toNat = 100 * (100 ^ n * c.toNat) := by
  rw [Nat.pow_succ', Nat.mul_assoc]

/-- Each byte hands its carry to the next. -/
theorem DecimalRun.sum (run : DecimalRun .adc m xs ys zs last)
    (left : ∀ x ∈ xs, IsDecimal x) (right : ∀ y ∈ ys, IsDecimal y) :
    zs.length = xs.length ∧ (∀ z ∈ zs, IsDecimal z) ∧
    number zs + 100 ^ xs.length * (last.cpu.flag Flag.carry).toNat =
      number xs + number ys + (m.cpu.flag Flag.carry).toNat := by
  induction run with
  | done m => exact ⟨rfl, left, by simp [number]⟩
  | byte carried applies value flags rest ih =>
    rw [List.forall_mem_cons] at left right
    obtain ⟨valid, byte⟩ := applies.sum value flags left.1 right.1
    obtain ⟨length, digits, total⟩ := ih left.2 right.2
    refine ⟨congrArg Nat.succ length, List.forall_mem_cons.mpr ⟨valid, digits⟩, ?_⟩
    rw [carried] at byte
    rw [number_cons, number_cons, number_cons, List.length_cons, shifted_carry]
    omega

/-- Each byte hands its borrow to the next. -/
theorem DecimalRun.difference (run : DecimalRun .sbc m xs ys zs last)
    (left : ∀ x ∈ xs, IsDecimal x) (right : ∀ y ∈ ys, IsDecimal y) :
    zs.length = xs.length ∧ (∀ z ∈ zs, IsDecimal z) ∧
    number zs + number ys + (m.cpu.flag Flag.carry).toNat =
      number xs + 100 ^ xs.length * (last.cpu.flag Flag.carry).toNat := by
  induction run with
  | done m => exact ⟨rfl, left, by simp [number]⟩
  | byte carried applies value flags rest ih =>
    rw [List.forall_mem_cons] at left right
    obtain ⟨valid, byte⟩ := applies.difference value flags left.1 right.1
    obtain ⟨length, digits, total⟩ := ih left.2 right.2
    refine ⟨congrArg Nat.succ length, List.forall_mem_cons.mpr ⟨valid, digits⟩, ?_⟩
    rw [carried] at byte
    rw [number_cons, number_cons, number_cons, List.length_cons, shifted_carry]
    omega

/-- Decimal arithmetic of any length: over two rows of as many decimal bytes there is a run with
addition, and every such run gives the sum of the two numbers and the carry, as decimal bytes and a last
carry; the run with subtraction gives the difference less the borrow, up to a last borrow. -/
theorem decimal_arithmetic (m : Core) (xs ys : List UInt8) (same : xs.length = ys.length)
    (left : ∀ x ∈ xs, IsDecimal x) (right : ∀ y ∈ ys, IsDecimal y) :
    ((∃ zs last, DecimalRun .adc m xs ys zs last) ∧
      ∀ zs last, DecimalRun .adc m xs ys zs last →
        zs.length = xs.length ∧ (∀ z ∈ zs, IsDecimal z) ∧
        number zs + 100 ^ xs.length * (last.cpu.flag Flag.carry).toNat =
          number xs + number ys + (m.cpu.flag Flag.carry).toNat) ∧
    ((∃ zs last, DecimalRun .sbc m xs ys zs last) ∧
      ∀ zs last, DecimalRun .sbc m xs ys zs last →
        zs.length = xs.length ∧ (∀ z ∈ zs, IsDecimal z) ∧
        (number zs : Int) - 100 ^ xs.length * (last.cpu.flag Flag.carry).toNat =
          (number xs : Int) - number ys - (m.cpu.flag Flag.carry).toNat) := by
  refine ⟨⟨exists_decimalRun .adc m same, fun zs last run => run.sum left right⟩,
    exists_decimalRun .sbc m same, fun zs last run => ?_⟩
  obtain ⟨length, digits, total⟩ := run.difference left right
  refine ⟨length, digits, ?_⟩
  zify at total
  omega

/-- A machine whose carry flag is set. -/
def carrying : Core :=
  (default : Core).onCpu fun r => { r with f := Flag.carry }

/-- 1299 and 3401 and a carry make 4701, and 1299 less 3401 and a borrow is 7897 with a borrow. -/
theorem decimal_arithmetic_carrying :
    (∃ zs last, DecimalRun .adc carrying [0x99, 0x12] [0x01, 0x34] zs last ∧
      number zs + 10000 * (last.cpu.flag Flag.carry).toNat = 4701) ∧
    ∃ zs last, DecimalRun .sbc carrying [0x99, 0x12] [0x01, 0x34] zs last ∧
      (number zs : Int) - 10000 * (last.cpu.flag Flag.carry).toNat = -2103 := by
  have left : ∀ x ∈ [(0x99 : UInt8), 0x12], IsDecimal x :=
    List.forall_mem_cons.mpr ⟨by decide, List.forall_mem_singleton.mpr (by decide)⟩
  have right : ∀ y ∈ [(0x01 : UInt8), 0x34], IsDecimal y :=
    List.forall_mem_cons.mpr ⟨by decide, List.forall_mem_singleton.mpr (by decide)⟩
  obtain ⟨⟨⟨zs, last, sum⟩, sums⟩, ⟨zs', last', difference⟩, differences⟩ :=
    decimal_arithmetic carrying [0x99, 0x12] [0x01, 0x34] rfl left right
  exact ⟨⟨zs, last, sum, (sums zs last sum).2.2⟩, zs', last', difference,
    (differences zs' last' difference).2.2⟩

end Core

end DotMatrix
