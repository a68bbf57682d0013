import DotMatrix.Proofs.Cartridge.Latches
import Mathlib.Data.List.Induction

/-!
# The two halves of the bank register of an MBC5 controller

An MBC5 controller selects one of up to 512 ROM banks with a register of nine bits, which is
written in two halves. The cartridge does not keep the register: it keeps the selected bank, which
is the register modulo the number of banks, and a write of one half takes the other half from
there. What the modulus has removed is gone, but it is never missed: the number of banks is a power
of two, so either the low byte alone names the bank, or nothing has been removed.

Results:
* `write_low_half`, `write_high_half`: a half may be written into the reduced register.
* `Halves.write`, `Halves.writeAll`: what the cartridge keeps, after one write and after any writes.
* **`halves_name_bank`**: the last values written to the halves name the bank that is mapped, and
  the last value written to the RAM register names the RAM bank.
-/

namespace DotMatrix

namespace Cartridge

/-! ## The values written last -/

/-- The last value that has been written to an address from `first` to `last`, if there is one. -/
def lastWritten (first last : UInt16) (writes : List (UInt16 × UInt8)) : Option UInt8 :=
  (writes.filter fun w => first ≤ w.1 && w.1 ≤ last).getLast?.map (·.2)

theorem lastWritten_concat (first last : UInt16) (writes : List (UInt16 × UInt8))
    (w : UInt16 × UInt8) :
    lastWritten first last (writes ++ [w]) =
      if first ≤ w.1 ∧ w.1 ≤ last then some w.2 else lastWritten first last writes := by
  unfold lastWritten
  rw [List.filter_append]
  by_cases inside : first ≤ w.1 ∧ w.1 ≤ last <;> simp [inside]

/-- The low half of the bank register: bank 1 is selected at power-on. -/
def lowHalf (writes : List (UInt16 × UInt8)) : UInt8 :=
  (lastWritten 0x2000 0x2FFF writes).getD 1

/-- The high half of the bank register: a single bit. -/
def highHalf (writes : List (UInt16 × UInt8)) : UInt8 :=
  (lastWritten 0x3000 0x3FFF writes).getD 0 &&& 0x01

/-- The RAM bank register: four bits. -/
def ramRegister (writes : List (UInt16 × UInt8)) : UInt8 :=
  (lastWritten 0x4000 0x5FFF writes).getD 0 &&& 0x0F

section Concat

variable (writes : List (UInt16 × UInt8)) (w : UInt16 × UInt8)

theorem lowHalf_concat : lowHalf (writes ++ [w]) =
    if 0x2000 ≤ w.1 ∧ w.1 ≤ 0x2FFF then w.2 else lowHalf writes := by
  rw [lowHalf, lastWritten_concat]
  split <;> rfl

theorem highHalf_concat : highHalf (writes ++ [w]) =
    if 0x3000 ≤ w.1 ∧ w.1 ≤ 0x3FFF then w.2 &&& 0x01 else highHalf writes := by
  rw [highHalf, lastWritten_concat]
  split <;> rfl

theorem ramRegister_concat : ramRegister (writes ++ [w]) =
    if 0x4000 ≤ w.1 ∧ w.1 ≤ 0x5FFF then w.2 &&& 0x0F else ramRegister writes := by
  rw [ramRegister, lastWritten_concat]
  split <;> rfl

end Concat

theorem writeAll_concat (c : Cartridge) (writes : List (UInt16 × UInt8)) (w : UInt16 × UInt8) :
    c.writeAll (writes ++ [w]) = (c.writeAll writes).writeControl w.1 w.2 := by
  rw [writeAll, List.foldl_append]
  rfl

/-! ## Halves of a reduced register -/

/-- A bank count of an accepted image. -/
theorem romBanks_cases {rom : Rom} {c : Cartridge} (accepted : ofRom rom = .ok c) :
    c.romBanks.toNat ∣ 256 ∨ c.romBanks.toNat = 512 := by
  cases hr : Header.read rom with
  | error fault =>
    rw [ofRom, hr] at accepted
    cases accepted
  | ok header =>
    rw [ofRom_of_read hr] at accepted
    cases accepted
    obtain ⟨⟨k, bound, size⟩, -⟩ := readRomSize_ok (read_ok hr).2.1
    simp only [ofHeader, size]
    interval_cases k <;> decide

/-- The register with a new low byte. -/
theorem set_low_toNat (bank : UInt16) (low : UInt8) :
    ((bank &&& 0x100) ||| low.toUInt16).toNat = 256 * (bank.toNat / 256 % 2) + low.toNat := by
  have bit : bank.toNat &&& 256 = 2 ^ 8 * (bank.toNat / 256 % 2) := by
    change bank.toNat &&& 2 ^ 8 = _
    rw [Nat.and_two_pow, Nat.toNat_testBit, Nat.mul_comm]
  rw [UInt16.toNat_or, UInt16.toNat_and, UInt8.toNat_toUInt16]
  change (bank.toNat &&& 256) ||| low.toNat = _
  rw [bit, ← Nat.two_pow_add_eq_or_of_lt low.toNat_lt]

/-- The register with a new ninth bit. -/
theorem set_high_toNat (bank : UInt16) (high : UInt8) :
    ((high.toUInt16 <<< 8) ||| (bank &&& 0xFF)).toNat = 256 * high.toNat + bank.toNat % 256 := by
  have low : bank &&& 0xFF = bank.toUInt8.toUInt16 := by
    apply UInt16.toNat_inj.mp
    rw [UInt16.toNat_and, UInt8.toNat_toUInt16, UInt16.toNat_toUInt8]
    exact Nat.and_two_pow_sub_one_eq_mod bank.toNat 8
  rw [low]
  exact (word_toNat high bank.toUInt8).trans (by rw [UInt16.toNat_toUInt8])

/-- A new low byte may be joined with the ninth bit of the reduced register: either the ninth bit
does not count for the bank, or it has not been removed. -/
theorem write_low_half {banks : Nat} (power : banks ∣ 256 ∨ banks = 512) (high : Nat) {old : Nat}
    (byte : old < 256) (low : Nat) :
    (256 * ((256 * high + old) % banks / 256 % 2) + low) % banks = (256 * high + low) % banks := by
  rcases power with few | rfl
  · have drop (n : Nat) : (256 * n + low) % banks = low % banks :=
      Nat.add_modEq_right_iff.mpr (Dvd.dvd.mul_right few n)
    rw [drop, drop]
  · omega

/-- A new ninth bit may be joined with the low byte of the reduced register. -/
theorem write_high_half {banks : Nat} (power : banks ∣ 256 ∨ banks = 512) (old high : Nat)
    {low : Nat} (byte : low < 256) :
    (256 * high + (256 * old + low) % banks % 256) % banks = (256 * high + low) % banks := by
  rcases power with few | rfl
  · have drop (n m : Nat) : (256 * n + m) % banks = m % banks :=
      Nat.add_modEq_right_iff.mpr (Dvd.dvd.mul_right few n)
    rw [drop, drop, drop, Nat.mod_mod_of_dvd _ few, Nat.mod_mod]
  · omega

/-! ## What the cartridge keeps -/

/-- The state of an MBC5 cartridge whose registers hold these values: the selected banks are the
registers modulo the numbers of banks. -/
structure Halves (c : Cartridge) (low high ram : UInt8) : Prop where
  power : c.romBanks.toNat ∣ 256 ∨ c.romBanks.toNat = 512
  mapper : c.mapper = .mbc5
  romBank : c.romBank = c.wrapRomBank (word high low)
  ramBank : c.ramBank = ram % c.ramBanks

section Writes

variable {c : Cartridge} {low high ram : UInt8}

theorem Halves.romBank_toNat (h : c.Halves low high ram) :
    c.romBank.toNat = (256 * high.toNat + low.toNat) % c.romBanks.toNat := by
  rw [h.romBank, wrapRomBank, UInt16.toNat_mod, word_toNat]

/-- A write of the low half joins it with what is left of the high half. -/
theorem Halves.writeLow (h : c.Halves low high ram) (val : UInt8) :
    Halves { c with romBank := c.wrapRomBank ((c.romBank &&& 0x100) ||| val.toUInt16) }
      val high ram := by
  refine { h with romBank := ?_ }
  change c.wrapRomBank _ = c.wrapRomBank (word high val)
  rw [wrapRomBank, wrapRomBank, ← UInt16.toNat_inj, UInt16.toNat_mod, UInt16.toNat_mod,
    set_low_toNat, word_toNat, h.romBank_toNat]
  exact write_low_half h.power _ low.toNat_lt _

/-- A write of the high half joins it with what is left of the low half. -/
theorem Halves.writeHigh (h : c.Halves low high ram) (val : UInt8) :
    Halves { c with romBank := c.wrapRomBank ((val.toUInt16 <<< 8) ||| (c.romBank &&& 0xFF)) }
      low val ram := by
  refine { h with romBank := ?_ }
  change c.wrapRomBank _ = c.wrapRomBank (word val low)
  rw [wrapRomBank, wrapRomBank, ← UInt16.toNat_inj, UInt16.toNat_mod, UInt16.toNat_mod,
    set_high_toNat, word_toNat, h.romBank_toNat]
  exact write_high_half h.power _ _ low.toNat_lt

/-- A control write keeps the banks in step with the registers. -/
theorem Halves.write (h : c.Halves low high ram) (addr : UInt16) (val : UInt8) :
    (c.writeControl addr val).Halves
      (if 0x2000 ≤ addr ∧ addr ≤ 0x2FFF then val else low)
      (if 0x3000 ≤ addr ∧ addr ≤ 0x3FFF then val &&& 0x01 else high)
      (if 0x4000 ≤ addr ∧ addr ≤ 0x5FFF then val &&& 0x0F else ram) := by
  rw [writeControl, h.mapper]
  simp only [writeMbc5]
  by_cases toEnable : addr < 0x2000
  · rw [if_pos toEnable, if_neg (by grind), if_neg (by grind), if_neg (by grind)]
    exact { h with }
  by_cases toLow : addr < 0x3000
  · rw [if_neg toEnable, if_pos toLow, if_pos (by grind), if_neg (by grind), if_neg (by grind)]
    exact h.writeLow val
  by_cases toHigh : addr < 0x4000
  · rw [if_neg toEnable, if_neg toLow, if_pos toHigh, if_neg (by grind), if_pos (by grind),
      if_neg (by grind)]
    exact h.writeHigh _
  by_cases toRam : addr < 0x6000
  · rw [if_neg toEnable, if_neg toLow, if_neg toHigh, if_pos toRam, if_neg (by grind),
      if_neg (by grind), if_pos (by grind)]
    exact { h with ramBank := rfl }
  · rw [if_neg toEnable, if_neg toLow, if_neg toHigh, if_neg toRam, if_neg (by grind),
      if_neg (by grind), if_neg (by grind)]
    exact h

/-- An accepted image with an MBC5 controller starts with bank 1 in the low half. -/
theorem ofRom_halves {rom : Rom} (accepted : ofRom rom = .ok c) (mbc5 : c.controller = .mbc5) :
    c.Halves 1 0 0 := by
  have power := romBanks_cases accepted
  obtain ⟨coherent, -⟩ := ofRom_coherent accepted
  cases hr : Header.read rom with
  | error fault =>
    rw [ofRom, hr] at accepted
    cases accepted
  | ok header =>
    rw [ofRom_of_read hr] at accepted
    cases accepted
    have kind : header.controller = .mbc5 := mbc5
    have one : (1 : UInt16) < (ofHeader header rom).romBanks := coherent.romBank
    refine ⟨power, ?_, (UInt16.mod_eq_of_lt one).symm, UInt8.zero_mod.symm⟩
    simp only [ofHeader, kind, Mapper.powerOn]

end Writes

/-- After any writes the banks are those that the registers name. -/
theorem Halves.writeAll {c : Cartridge} (h : c.Halves 1 0 0) (writes : List (UInt16 × UInt8)) :
    (c.writeAll writes).Halves (lowHalf writes) (highHalf writes) (ramRegister writes) := by
  induction writes using List.reverseRecOn with
  | nil => exact h
  | append_singleton writes w ih =>
    rw [writeAll_concat, lowHalf_concat, highHalf_concat, ramRegister_concat]
    exact ih.write w.1 w.2

/-! ## The mapped banks -/

/-- Whatever has been written to the controller of an MBC5 cartridge, in whatever order: at `4000`
to `7FFF` it shows the bank whose number has the low byte written last and the high bit written
last, modulo the number of banks, and the selected RAM bank is the low nibble of the RAM register,
modulo the number of RAM banks. -/
theorem halves_name_bank {rom : Rom} {c : Cartridge} (accepted : ofRom rom = .ok c)
    (mbc5 : c.controller = .mbc5) (writes : List (UInt16 × UInt8)) :
    let bank := (256 * (highHalf writes).toNat + (lowHalf writes).toNat) % c.romBanks.toNat
    let ramBank := (ramRegister writes).toNat % c.ramBanks.toNat
    let d := c.writeAll writes
    c.rom.size = c.romBanks.toNat * 0x4000 ∧
    d.romBank.toNat = bank ∧
    (∀ i, 4 ≤ i → d.romSlot i = ⟨.rom, bank * 0x4000 + (i - 4) * 0x1000, 0x0FFF⟩) ∧
    d.rom = c.rom ∧
    d.ramBank.toNat = ramBank ∧ d.shownRamBank = ramBank := by
  intro bank ramBank d
  obtain ⟨coherent, whole⟩ := ofRom_coherent accepted
  have h : d.Halves (lowHalf writes) (highHalf writes) (ramRegister writes) :=
    (ofRom_halves accepted mbc5).writeAll writes
  have kind := writeAll_unbanked c writes
  have romBanks : d.romBanks = c.romBanks := (congrArg Cartridge.romBanks kind :)
  have ramBanks : d.ramBanks = c.ramBanks := (congrArg Cartridge.ramBanks kind :)
  have romBank : d.romBank.toNat = bank := by rw [h.romBank_toNat, romBanks]
  have selected : d.ramBank.toNat = ramBank := by rw [h.ramBank, ramBanks, UInt8.toNat_mod]
  refine ⟨whole.trans coherent.romSize, romBank, fun i upper => ?_, ?_, selected, ?_⟩
  · rw [romSlot, if_neg (Nat.not_lt.mpr upper), romBank]
  · exact (congrArg Cartridge.rom kind :)
  · rw [shownRamBank, h.mapper]
    exact selected

/-- The halves written several times and in turn, on a cartridge of 64 banks that keeps six of the
nine bits: the register holds `1C1`, the cartridge shows bank 1, and of its four RAM banks bank 2. -/
theorem halves_name_bank_reduced :
    ∃ c, ofRom (coded 0x1B 5 3) = .ok c ∧ c.controller = .mbc5 ∧
      let d := c.writeAll [(0x3FFF, 0xFF), (0x2000, 0x47), (0x3000, 0xFE), (0x2FFF, 0xC1),
        (0x3000, 0x01), (0x4000, 0x1E)]
      d.romSlot 4 = ⟨.rom, 0x4000, 0x0FFF⟩ ∧ d.shownRamBank = 2 := by
  have read : Header.read (coded 0x1B 5 3) =
      .ok (codedHeader 0x1B 5 3 .mbc5 { ram := true, battery := true } 0x8000) :=
    coded_read (by decide) rfl rfl
  have accepted := ofRom_of_read read
  obtain ⟨-, -, slots, -, -, ramBank⟩ := halves_name_bank accepted rfl
    [(0x3FFF, 0xFF), (0x2000, 0x47), (0x3000, 0xFE), (0x2FFF, 0xC1), (0x3000, 0x01), (0x4000, 0x1E)]
  refine ⟨_, accepted, rfl, (slots 4 (Nat.le_refl 4)).trans ?_, ramBank.trans ?_⟩
  · decide
  · decide

end Cartridge

end DotMatrix
