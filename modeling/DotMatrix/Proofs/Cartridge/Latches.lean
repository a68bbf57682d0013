import DotMatrix.Inspect.Cartridge
import DotMatrix.Proofs.Cartridge.Banks
import DotMatrix.Proofs.Word
import Mathlib.Data.Nat.ModEq

/-!
# What the registers of an MBC1 controller decide

An MBC1 controller has four registers: RAM on or off, the low and the high bank register, and the
mode. The cartridge keeps the selected bank beside them, and three of the four kinds of writes
bring it up to date. A write of mode 0 does that from the low register alone: the high register
keeps its value but is *dropped* from the bank, until a bank register is written again.

Results:
* `Latched.writeAll`: the state of the controller after any writes, in closed form.
* **`slots_iff`**: the last values in the registers decide what the cartridge shows, and the bank
  is the one that they name, except when the high register has been dropped and the image is large
  enough to notice.
* `slots_stale`: the same values in another order show another bank.
-/

namespace DotMatrix

namespace Cartridge

/-! ## Registers -/

/-- The last values that have been written to the registers of an MBC1 controller. -/
structure Latches where
  enabled : Bool
  low : UInt8
  high : UInt8
  mode : UInt8
  deriving DecidableEq, Repr

namespace Latches

/-- The registers at power-on. -/
def powerOn : Latches :=
  { enabled := false, low := 1, high := 0, mode := 0 }

/-- A write of a register. The low register cannot hold zero. -/
def write (r : Latches) (addr : UInt16) (val : UInt8) : Latches :=
  if addr < 0x2000 then { r with enabled := enablesRam val }
  else if addr < 0x4000 then { r with low := max (val &&& 0x1F) 1 }
  else if addr < 0x6000 then { r with high := val &&& 0x03 }
  else if addr < 0x8000 then { r with mode := val &&& 0x01 }
  else r

/-- The registers after some writes. -/
def after (writes : List (UInt16 × UInt8)) : Latches :=
  writes.foldl (fun r w => r.write w.1 w.2) powerOn

end Latches

/-- Whether the high register is dropped after a write: mode 0 drops it, and a bank register brings
it back. -/
def drops (dropped : Bool) (addr : UInt16) (val : UInt8) : Bool :=
  if addr < 0x2000 then dropped
  else if addr < 0x6000 then false
  else if addr < 0x8000 && val &&& 0x01 == 0 then true
  else dropped

/-- Whether mode 0 has been written since the last write of a bank register. -/
def highDropped (writes : List (UInt16 × UInt8)) : Bool :=
  writes.foldl (fun dropped w => drops dropped w.1 w.2) false

/-- The cartridge after some control writes. -/
def writeAll (c : Cartridge) (writes : List (UInt16 × UInt8)) : Cartridge :=
  writes.foldl (fun c w => c.writeControl w.1 w.2) c

/-! ## Bank numbers -/

theorem mbc1Bank_toNat {low : UInt8} (high : UInt8) (hl : low < 32) :
    (mbc1Bank low high).toNat = 32 * high.toNat + low.toNat :=
  shiftLeft_or_toNat (by decide) hl

theorem mbc1Bank_zero (low : UInt8) : mbc1Bank low 0 = low.toUInt16 := by
  simp [mbc1Bank]

/-- The high register does not count for the bank if its part is a multiple of the bank count. -/
theorem wrapRomBank_high_iff (c : Cartridge) {low : UInt8} (high : UInt8) (hl : low < 32) :
    c.wrapRomBank (mbc1Bank low high) = c.wrapRomBank (mbc1Bank low 0) ↔
      c.romBanks.toNat ∣ 32 * high.toNat := by
  rw [wrapRomBank, wrapRomBank, ← UInt16.toNat_inj, UInt16.toNat_mod, UInt16.toNat_mod,
    mbc1Bank_toNat high hl, mbc1Bank_toNat 0 hl]
  change (32 * high.toNat + low.toNat) % _ = (32 * 0 + low.toNat) % _ ↔ _
  rw [Nat.mul_zero, Nat.zero_add]
  exact Nat.add_modEq_right_iff

/-! ## The state of the controller -/

/-- The state of an MBC1 cartridge whose registers hold `r`: the high register reaches the mapper
only if there are upper banks, and the bank only if it has not been dropped. -/
structure Latched (c : Cartridge) (r : Latches) (dropped : Bool) : Prop where
  few : c.hasHighBanks = false → c.romBanks.toNat ∣ 32
  low : r.low < 32
  high : r.high < 4
  mapper : c.mapper = .mbc1 r.low (if c.hasHighBanks then r.high else 0) r.mode
  romBank : c.romBank = c.wrapRomBank (mbc1Bank r.low (if dropped then 0 else r.high))
  ramBank : c.ramBank = if c.features.ram then r.high % c.ramBanks else 0
  enabled : c.ramEnabled = r.enabled

/-- Without upper banks every value of the high register names the same bank. -/
theorem wrapRomBank_few {c : Cartridge} (few : c.hasHighBanks = false → c.romBanks.toNat ∣ 32)
    (none : c.hasHighBanks = false) {low : UInt8} (high : UInt8) (hl : low < 32) :
    c.wrapRomBank (mbc1Bank low high) = c.wrapRomBank (mbc1Bank low 0) :=
  (wrapRomBank_high_iff c high hl).mpr (Dvd.dvd.mul_right (few none) _)

theorem low_lt (val : UInt8) : max (val &&& 0x1F) 1 < 32 := by
  have masked : val &&& 0x1F < 32 := and_lt (by decide) val
  change (if val &&& 0x1F ≤ 1 then 1 else val &&& 0x1F) < 32
  split
  · decide
  · exact masked

theorem mode_cases (val : UInt8) : val &&& 0x01 = 0 ∨ val &&& 0x01 = 1 := by
  have masked : val &&& 0x01 < 2 := and_lt (by decide) val
  grind

variable {c : Cartridge} {r : Latches} {dropped : Bool}

/-- Without upper banks the bank is the one that the low register names, dropped or not. -/
theorem Latched.bank_few (h : c.Latched r dropped) (none : c.hasHighBanks = false) :
    c.romBank = c.wrapRomBank (mbc1Bank r.low 0) := by
  rw [h.romBank]
  cases dropped with
  | true => rfl
  | false => exact wrapRomBank_few h.few none r.high h.low

theorem Latched.writeLow (h : c.Latched r dropped) (val : UInt8) :
    let low := max (val &&& 0x1F) 1
    let high := if c.hasHighBanks then r.high else 0
    Latched { c with mapper := .mbc1 low high r.mode, romBank := c.wrapRomBank (mbc1Bank low high) }
      { r with low := low } false := by
  refine { h with low := low_lt val, mapper := rfl, romBank := ?_ }
  cases upper : c.hasHighBanks with
  | true => rfl
  | false => exact (wrapRomBank_few h.few upper r.high (low_lt val)).symm

theorem Latched.writeHigh (h : c.Latched r dropped) (val : UInt8) :
    let high := if c.hasHighBanks then val &&& 0x03 else if c.hasHighBanks then r.high else 0
    Latched { c with
        mapper := .mbc1 r.low high r.mode
        romBank := if c.hasHighBanks then c.wrapRomBank (mbc1Bank r.low high) else c.romBank
        ramBank := if c.features.ram then (val &&& 0x03) % c.ramBanks else c.ramBank }
      { r with high := val &&& 0x03 } false := by
  have small : val &&& 0x03 < 4 := and_lt (by decide) val
  have ramBank : (if c.features.ram then (val &&& 0x03) % c.ramBanks else c.ramBank) =
      if c.features.ram then (val &&& 0x03) % c.ramBanks else 0 := by
    rw [h.ramBank]
    split <;> rfl
  refine ⟨h.few, h.low, small, ?_, ?_, ramBank, h.enabled⟩
  · change _ = Mapper.mbc1 r.low (if c.hasHighBanks then _ else _) r.mode
    cases c.hasHighBanks <;> rfl
  · change _ = c.wrapRomBank (mbc1Bank r.low (val &&& 0x03))
    cases upper : c.hasHighBanks with
    | true => rfl
    | false => exact (h.bank_few upper).trans (wrapRomBank_few h.few upper _ h.low).symm

theorem Latched.writeMode (h : c.Latched r dropped) (val : UInt8) :
    let mode := val &&& 0x01
    Latched { c with
        mapper := .mbc1 r.low (if c.hasHighBanks then r.high else 0) mode
        romBank := if c.hasHighBanks && mode == 0 then c.wrapRomBank r.low.toUInt16 else c.romBank }
      { r with mode := mode } (if mode == 0 then true else dropped) := by
  refine ⟨h.few, h.low, h.high, rfl, ?_, h.ramBank, h.enabled⟩
  change _ = c.wrapRomBank (mbc1Bank r.low _)
  rcases mode_cases val with zero | one
  · rw [zero]
    cases upper : c.hasHighBanks with
    | true => exact congrArg c.wrapRomBank (mbc1Bank_zero r.low).symm
    | false => exact h.bank_few upper
  · rw [one]
    cases c.hasHighBanks <;> exact h.romBank

/-- A control write keeps the state in step with the registers. -/
theorem Latched.write (h : c.Latched r dropped) (addr : UInt16) (val : UInt8) :
    (c.writeControl addr val).Latched (r.write addr val) (drops dropped addr val) := by
  rw [writeControl, h.mapper]
  simp only [writeMbc1, Latches.write, drops]
  by_cases toEnable : addr < 0x2000
  · simp only [if_pos toEnable]
    exact { h with enabled := rfl }
  by_cases toLow : addr < 0x4000
  · simp only [if_neg toEnable, if_pos toLow, if_pos (show addr < 0x6000 by grind)]
    exact h.writeLow val
  by_cases toHigh : addr < 0x6000
  · simp only [if_neg toEnable, if_neg toLow, if_pos toHigh]
    exact h.writeHigh val
  by_cases toMode : addr < 0x8000
  · simp only [if_neg toEnable, if_neg toLow, if_neg toHigh, toMode, decide_true, if_true,
      Bool.true_and]
    exact h.writeMode val
  · simp only [if_neg toEnable, if_neg toLow, if_neg toHigh, toMode, decide_false, Bool.false_and,
      Bool.false_eq_true, if_false]
    exact h

theorem Latched.writeAll (h : c.Latched r dropped) (writes : List (UInt16 × UInt8)) :
    (c.writeAll writes).Latched (writes.foldl (fun r w => r.write w.1 w.2) r)
      (writes.foldl (fun dropped w => drops dropped w.1 w.2) dropped) := by
  induction writes generalizing c r dropped with
  | nil => exact h
  | cons w writes ih => exact ih (h.write w.1 w.2)

theorem writeAll_unbanked (c : Cartridge) (writes : List (UInt16 × UInt8)) :
    (c.writeAll writes).unbanked = c.unbanked := by
  induction writes generalizing c with
  | nil => rfl
  | cons w writes ih => exact (ih (c.writeControl w.1 w.2)).trans (writeControl_unbanked c w.1 w.2)

/-- An accepted image with an MBC1 controller starts with the registers at power-on. -/
theorem ofRom_latched {rom : Rom} (accepted : ofRom rom = .ok c) (mbc1 : c.controller = .mbc1) :
    c.Latched .powerOn false := by
  obtain ⟨coherent, -⟩ := ofRom_coherent accepted
  cases hr : Header.read rom with
  | error fault =>
    rw [ofRom, hr] at accepted
    cases accepted
  | ok header =>
    rw [ofRom, hr] at accepted
    cases accepted
    have kind : header.controller = .mbc1 := mbc1
    obtain ⟨⟨k, bound, size⟩, -⟩ := readRomSize_ok (read_ok hr).2.1
    refine ⟨?_, by decide, by decide, ?_, ?_, ?_, ?_⟩
    · simp only [hasHighBanks, ofHeader, size]
      interval_cases k <;> decide
    · simp only [ofHeader, kind, Mapper.powerOn, Latches.powerOn, ite_self]
    · have one : (1 : UInt16) < (ofHeader header rom).romBanks := coherent.romBank
      exact (UInt16.mod_eq_of_lt one).symm
    · change 0 = if _ then 0 % (ofHeader header rom).ramBanks else 0
      rw [UInt8.zero_mod, ite_self]
    · simp only [ofHeader, ramAlwaysOn, kind, Latches.powerOn]
      rfl

/-- The slots tell the selected ROM bank: the fifth one begins there. -/
theorem romBank_of_slots {d : Cartridge} (same : c.slots = d.slots) : c.romBank = d.romBank := by
  have fifth := congrArg (fun slots => slots[4]?.map Slot.base) same
  have base : c.romBank.toNat * 0x4000 = d.romBank.toNat * 0x4000 := by
    simpa [slots, romSlot] using fifth
  exact UInt16.toNat_inj.mp (Nat.eq_of_mul_eq_mul_right (by decide) base)

/-- Two cartridges that differ in the selected ROM bank alone show the same if they do not differ
there either. -/
theorem slots_romBank_iff (c : Cartridge) (n : UInt16) :
    { c with romBank := n }.slots = c.slots ↔ n = c.romBank := by
  constructor
  · exact romBank_of_slots
  · rintro rfl
    rfl

/-- Cartridges of one kind differ in their bank registers alone. -/
theorem unbanked_eq {d : Cartridge} (kind : c.unbanked = d.unbanked) :
    c = { d with
      mapper := c.mapper, romBank := c.romBank, ramBank := c.ramBank, ramEnabled := c.ramEnabled } := by
  cases c
  cases d
  simp only [unbanked, mk.injEq] at kind
  simp [kind]

section Pair

variable {d : Cartridge} {dropped' : Bool}

/-- Cartridges of one kind whose registers agree differ in the selected ROM bank alone. -/
theorem Latched.alike (h : c.Latched r dropped) (h' : d.Latched r dropped')
    (kind : c.unbanked = d.unbanked) : { d with romBank := c.romBank } = c := by
  have parts := unbanked_eq kind
  have banks : c.romBanks = d.romBanks := by rw [parts]
  have rams : c.ramBanks = d.ramBanks := by rw [parts]
  have equipped : c.features = d.features := by rw [parts]
  have mapper : c.mapper = d.mapper := by
    rw [h.mapper, h'.mapper, hasHighBanks, hasHighBanks, banks]
  have ramBank : c.ramBank = d.ramBank := by
    rw [h.ramBank, h'.ramBank, equipped, rams]
  have enabled : c.ramEnabled = d.ramEnabled := h.enabled.trans h'.enabled.symm
  rw [mapper, ramBank, enabled] at parts
  exact parts.symm

/-- Cartridges of one kind whose registers agree select the same bank, unless the high register
counts and has been dropped in one of them. -/
theorem Latched.romBank_eq_iff (h : c.Latched r dropped) (h' : d.Latched r dropped')
    (kind : c.unbanked = d.unbanked) :
    c.romBank = d.romBank ↔ dropped = dropped' ∨ d.romBanks.toNat ∣ 32 * r.high.toNat := by
  have banks : c.romBanks = d.romBanks := by rw [unbanked_eq kind]
  have wrap (n : UInt16) : c.wrapRomBank n = d.wrapRomBank n := by
    rw [wrapRomBank, wrapRomBank, banks]
  rw [h.romBank, h'.romBank, wrap, ← wrapRomBank_high_iff d r.high h.low]
  cases dropped <;> cases dropped' <;> simp [eq_comm]

end Pair

/-- Whether the bank is the one that the registers name. -/
theorem Latched.romBank_iff (h : c.Latched r dropped) :
    c.romBank = c.wrapRomBank (mbc1Bank r.low r.high) ↔
      dropped = false ∨ c.romBanks.toNat ∣ 32 * r.high.toNat := by
  rw [h.romBank, ← wrapRomBank_high_iff c r.high h.low]
  cases dropped with
  | false => simp
  | true => simp [eq_comm]

/-! ## An image of 64 banks -/

/-- The bytes of an image of 1 MiB for an MBC1 controller: enough for the high register to count. -/
def megabyteByte (i : Nat) : UInt8 :=
  if i = 0x147 then 0x01 else if i = 0x148 then 0x05 else 0

/-- The image. -/
def megabyte : Rom :=
  ⟨Array.ofFn fun i : Fin 0x100000 => megabyteByte i⟩

theorem megabyte_size : megabyte.size = 0x100000 :=
  Array.size_ofFn

theorem megabyte_byte {i : Nat} (h : i < 0x100000) : megabyte.byte i = megabyteByte i :=
  byte_ofFn megabyteByte h

theorem megabyte_accepted :
    ∃ cart, ofRom megabyte = .ok cart ∧ cart.controller = .mbc1 ∧ cart.romBanks = 64 := by
  have romSize : Header.readRomSize megabyte = .ok 0x100000 := by
    simp [Header.readRomSize, megabyte_byte, megabyteByte, megabyte_size]
  have read : ∃ header, Header.read megabyte = .ok header ∧ header.controller = .mbc1 ∧
      header.romSize = 0x100000 := by
    rw [Header.read, if_neg (by rw [megabyte_size]; decide)]
    simp (disch := decide) only [romSize, megabyte_byte]
    exact ⟨_, rfl, rfl, rfl⟩
  obtain ⟨header, accepted, kind, size⟩ := read
  refine ⟨ofHeader header megabyte, ?_, kind, ?_⟩
  · rw [ofRom, accepted]
    rfl
  · simp only [ofHeader, size]
    decide

/-! ## Registers and slots -/

/-- The last values in the registers of an MBC1 controller decide what the cartridge shows, if the
high register has been dropped in both cases or in neither, or does not count for the bank; and
the selected bank is the one that the registers name, if the high register has not been dropped or
does not count. -/
theorem slots_iff {rom : Rom} {c : Cartridge} (accepted : ofRom rom = .ok c)
    (mbc1 : c.controller = .mbc1) (ws ws' : List (UInt16 × UInt8))
    (same : Latches.after ws = Latches.after ws') :
    let r := Latches.after ws
    ((c.writeAll ws).slots = (c.writeAll ws').slots ↔
      highDropped ws = highDropped ws' ∨ c.romBanks.toNat ∣ 32 * r.high.toNat) ∧
    ((c.writeAll ws).romBank = c.wrapRomBank (mbc1Bank r.low r.high) ↔
      highDropped ws = false ∨ c.romBanks.toNat ∣ 32 * r.high.toNat) := by
  intro r
  have start := ofRom_latched accepted mbc1
  have h : (c.writeAll ws).Latched r (highDropped ws) := start.writeAll ws
  have h' : (c.writeAll ws').Latched r (highDropped ws') := by
    rw [show r = Latches.after ws' from same]
    exact start.writeAll ws'
  have kind := writeAll_unbanked c ws
  have kind' := writeAll_unbanked c ws'
  have banks : (c.writeAll ws).romBanks = c.romBanks := by rw [unbanked_eq kind]
  have banks' : (c.writeAll ws').romBanks = c.romBanks := by rw [unbanked_eq kind']
  have alike := h.alike h' (kind.trans kind'.symm)
  constructor
  · rw [← banks', ← h.romBank_eq_iff h' (kind.trans kind'.symm), ← slots_romBank_iff, alike]
  · have wrap (n : UInt16) : c.wrapRomBank n = (c.writeAll ws).wrapRomBank n := by
      rw [wrapRomBank, wrapRomBank, banks]
    rw [wrap, h.romBank_iff, banks]

/-- The two bank registers of a cartridge of 64 banks, written in either order: bank 37. -/
theorem slots_iff_orders :
    ∃ c, ofRom megabyte = .ok c ∧ c.controller = .mbc1 ∧
      Latches.after [(0x2000, 5), (0x4000, 1)] = Latches.after [(0x4000, 1), (0x2000, 5)] ∧
      (c.writeAll [(0x2000, 5), (0x4000, 1)]).slots =
        (c.writeAll [(0x4000, 1), (0x2000, 5)]).slots ∧
      (c.writeAll [(0x2000, 5), (0x4000, 1)]).romBank = c.wrapRomBank (mbc1Bank 5 1) := by
  obtain ⟨c, accepted, mbc1, -⟩ := megabyte_accepted
  have same : Latches.after [(0x2000, 5), (0x4000, 1)] =
      Latches.after [(0x4000, 1), (0x2000, 5)] := by decide
  obtain ⟨slots, bank⟩ := slots_iff accepted mbc1 _ _ same
  exact ⟨c, accepted, mbc1, same, slots.mpr (.inl rfl), bank.mpr (.inl rfl)⟩

/-- The high register and then mode 0, or mode 0 and then the high register: in the end the
registers hold the same values, but the first order shows bank 1 and the second one bank 33. -/
theorem slots_stale :
    ∃ c, ofRom megabyte = .ok c ∧ c.controller = .mbc1 ∧
      Latches.after [(0x4000, 1), (0x6000, 0)] = Latches.after [(0x6000, 0), (0x4000, 1)] ∧
      (c.writeAll [(0x4000, 1), (0x6000, 0)]).romBank = 1 ∧
      (c.writeAll [(0x6000, 0), (0x4000, 1)]).romBank = 33 ∧
      (c.writeAll [(0x4000, 1), (0x6000, 0)]).slots ≠
        (c.writeAll [(0x6000, 0), (0x4000, 1)]).slots := by
  obtain ⟨c, accepted, mbc1, banks⟩ := megabyte_accepted
  have start := ofRom_latched accepted mbc1
  have early : (c.writeAll [(0x4000, 1), (0x6000, 0)]).romBank = 1 := by
    rw [(start.writeAll _).romBank, wrapRomBank, unbanked_eq (writeAll_unbanked c _), banks]
    decide
  have late : (c.writeAll [(0x6000, 0), (0x4000, 1)]).romBank = 33 := by
    rw [(start.writeAll _).romBank, wrapRomBank, unbanked_eq (writeAll_unbanked c _), banks]
    decide
  refine ⟨c, accepted, mbc1, by decide, early, late, fun same => ?_⟩
  have bank := romBank_of_slots same
  rw [early, late] at bank
  cases bank

end Cartridge

end DotMatrix
