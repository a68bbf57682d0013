import DotMatrix.Cartridge.Banking
import DotMatrix.Cartridge.Battery
import Mathlib.Data.List.Basic
import Mathlib.Data.Nat.Bitwise
import Mathlib.Tactic.IntervalCases

/-!
# Bank numbers stay in range

`Coherent` is the invariant of the bank registers: there are at least two ROM banks and one RAM
bank, the sizes are those of the banks (RAM of less than a bank counts as one), and the selected
banks exist. Every control write keeps it, whatever is written where.

Results:
* `ofHeader_coherent`, **`ofRom_coherent`**: every accepted image makes a coherent cartridge.
* **`writeControl_coherent`**: a control write keeps the cartridge coherent.
* `romSlot_offset_lt`, `ramSlot_offset_lt`: what the slots of a coherent cartridge show exists.
* `coded_read`: an image that is nothing but the codes of its header is accepted if the codes are.
-/

namespace DotMatrix

namespace Cartridge

/-- The banks of a cartridge: how many there are, and which are selected. -/
structure Coherent (c : Cartridge) : Prop where
  romSize : c.romSize = c.romBanks.toNat * 0x4000
  romBanks : 2 ≤ c.romBanks
  romBank : c.romBank < c.romBanks
  ramSize : c.ramSize < 0x2000 ∧ c.ramBanks = 1 ∨ c.ramSize = c.ramBanks.toNat * 0x2000
  ramBank : c.ramBank < c.ramBanks
  ram : c.ram.size = Header.maxRamSize
  inside : c.ramSize ≤ Header.maxRamSize

section Coherence

variable {c : Cartridge}

theorem Coherent.romBanks_pos (h : c.Coherent) : 0 < c.romBanks := by
  have two := h.romBanks
  grind

theorem Coherent.ramBanks_pos (h : c.Coherent) : 0 < c.ramBanks := by
  have selected := h.ramBank
  grind

/-- A bank number that has been reduced is the number of a bank. -/
theorem wrapRomBank_lt (h : c.Coherent) (n : UInt16) : c.wrapRomBank n < c.romBanks :=
  UInt16.mod_lt n h.romBanks_pos

theorem wrapRamBank_lt (h : c.Coherent) (n : UInt8) : n % c.ramBanks < c.ramBanks :=
  UInt8.mod_lt n h.ramBanks_pos

/-! ## Control writes -/

/-- Changes of the registers keep the cartridge coherent if the banks they select exist. -/
theorem Coherent.select (h : c.Coherent) {romBank : UInt16} {ramBank : UInt8} (mapper : Mapper)
    (ramEnabled : Bool) (rom : romBank < c.romBanks) (ram : ramBank < c.ramBanks) :
    Coherent { c with mapper, romBank, ramBank, ramEnabled } :=
  ⟨h.romSize, h.romBanks, rom, h.ramSize, ram, h.ram, h.inside⟩

theorem writeMbc1_coherent (h : c.Coherent) (low high mode : UInt8) (addr : UInt16)
    (val : UInt8) : (c.writeMbc1 low high mode addr val).Coherent := by
  unfold writeMbc1
  split
  · exact h.select _ _ h.romBank h.ramBank
  split
  · exact h.select _ _ (wrapRomBank_lt h _) h.ramBank
  split
  · refine h.select _ _ ?_ ?_
    · split
      · exact wrapRomBank_lt h _
      · exact h.romBank
    · split
      · exact wrapRamBank_lt h _
      · exact h.ramBank
  split
  · refine h.select _ _ ?_ h.ramBank
    split
    · exact wrapRomBank_lt h _
    · exact h.romBank
  · exact h

theorem writeMbc2_coherent (h : c.Coherent) (addr : UInt16) (val : UInt8) :
    (c.writeMbc2 addr val).Coherent := by
  unfold writeMbc2
  split
  · split
    · exact h.select _ _ h.romBank h.ramBank
    · exact h.select _ _ (wrapRomBank_lt h _) h.ramBank
  · exact h

theorem writeMbc3_coherent (h : c.Coherent) (addr : UInt16) (val : UInt8) :
    (c.writeMbc3 addr val).Coherent := by
  unfold writeMbc3
  split
  · exact h.select _ _ h.romBank h.ramBank
  split
  · exact h.select _ _ (wrapRomBank_lt h _) h.ramBank
  split
  · split
    · split
      · exact h.select _ _ h.romBank (wrapRamBank_lt h _)
      split
      · exact h.select _ _ h.romBank h.ramBank
      · exact h
    · exact h
  · exact h

theorem writeMbc5_coherent (h : c.Coherent) (addr : UInt16) (val : UInt8) :
    (c.writeMbc5 addr val).Coherent := by
  unfold writeMbc5
  split
  · exact h.select _ _ h.romBank h.ramBank
  split
  · exact h.select _ _ (wrapRomBank_lt h _) h.ramBank
  split
  · exact h.select _ _ (wrapRomBank_lt h _) h.ramBank
  split
  · exact h.select _ _ h.romBank (wrapRamBank_lt h _)
  · exact h

/-- A control write keeps the cartridge coherent, whatever is written where. -/
theorem writeControl_coherent (h : c.Coherent) (addr : UInt16) (val : UInt8) :
    (c.writeControl addr val).Coherent := by
  unfold writeControl
  split
  · exact h
  · exact writeMbc1_coherent h _ _ _ addr val
  · exact writeMbc2_coherent h addr val
  · exact writeMbc3_coherent h addr val
  · exact writeMbc5_coherent h addr val

/-- The cartridge without its bank registers. -/
def unbanked (c : Cartridge) : Cartridge :=
  { c with mapper := .plain, romBank := 0, ramBank := 0, ramEnabled := false }

/-- A control write changes nothing but the bank registers. -/
theorem writeControl_unbanked (c : Cartridge) (addr : UInt16) (val : UInt8) :
    (c.writeControl addr val).unbanked = c.unbanked := by
  unfold writeControl writeMbc1 writeMbc2 writeMbc3 writeMbc5
  repeat' split
  all_goals rfl

/-- The registers of a coherent cartridge at power-on select banks that exist. -/
theorem reset_coherent (h : c.Coherent) : c.reset.Coherent := by
  have second : (1 : UInt16) < c.romBanks := by
    have two := h.romBanks
    grind
  exact h.select _ _ second h.ramBanks_pos

/-! ## Slots -/

/-- The bank seen at `0000` exists. -/
theorem lowBank_lt (h : c.Coherent) : c.lowBank < c.romBanks := by
  unfold lowBank
  split
  · split
    · exact UInt16.mod_lt _ h.romBanks_pos
    · exact h.romBanks_pos
  · exact h.romBanks_pos

/-- What a mask lets through is no more than the mask. -/
theorem masked_le (addr mask : UInt16) : (addr &&& mask).toNat ≤ mask.toNat := by
  rw [UInt16.toNat_and]
  exact Nat.and_le_right

/-- A quarter of a bank that exists lies inside the ROM. -/
theorem romSlot_offset_lt (h : c.Coherent) {i : Nat} (hi : i < 8) (addr : UInt16) :
    (c.romSlot i).offset addr < c.romSize := by
  have masked : (addr &&& 0x0FFF).toNat ≤ 0x0FFF := masked_le addr 0x0FFF
  have low : c.lowBank.toNat < c.romBanks.toNat := lowBank_lt h
  have selected : c.romBank.toNat < c.romBanks.toNat := h.romBank
  rw [h.romSize]
  simp only [romSlot, Slot.offset]
  split <;> omega

/-- RAM banks that are shown exist. -/
theorem shownRamBank_lt (h : c.Coherent) : c.shownRamBank < c.ramBanks.toNat := by
  have first : 0 < c.ramBanks.toNat := h.ramBanks_pos
  have selected : c.ramBank.toNat < c.ramBanks.toNat := h.ramBank
  unfold shownRamBank
  split
  · split
    · exact first
    · exact selected
  · exact selected

/-- The mask of the RAM slots: RAM of less than a slot is mirrored. -/
theorem ramMask_toNat (c : Cartridge) :
    ((min (c.ramSize - 1) 0x0FFF).toUInt16).toNat = min (c.ramSize - 1) 0x0FFF := by
  have small : min (c.ramSize - 1) 0x0FFF < UInt16.size :=
    Nat.lt_of_le_of_lt (Nat.min_le_right _ _) (by decide)
  exact UInt16.toNat_ofNat_of_lt' small

/-- A slot of RAM shows RAM that there is. -/
theorem ramStoreSlot_offset_lt (h : c.Coherent) (upper : Bool) (addr : UInt16)
    (there : c.ramSize ≠ 0) : (c.ramStoreSlot upper).offset addr < c.ramSize := by
  have masked := masked_le addr (min (c.ramSize - 1) 0x0FFF).toUInt16
  have shown := shownRamBank_lt h
  rw [ramMask_toNat] at masked
  rw [ramStoreSlot, if_neg there]
  simp only [Slot.offset]
  rcases h.ramSize with ⟨small, one⟩ | whole
  · have first : c.shownRamBank = 0 := by
      rw [one] at shown
      exact Nat.lt_one_iff.mp shown
    have lower : ¬ 0x2000 ≤ c.ramSize := Nat.not_le.mpr small
    simp only [first, lower, decide_false, Bool.and_false, Bool.false_eq_true, if_false]
    omega
  · split <;> omega

/-- A slot at `A000` shows RAM, a clock register or nothing. -/
theorem ramSlot_region (c : Cartridge) (upper : Bool) :
    (c.ramSlot upper).region ≠ .rom ∧ (c.ramSlot upper).region ≠ .vram ∧
      (c.ramSlot upper).region ≠ .wram := by
  unfold ramSlot ramStoreSlot Slot.empty
  repeat' split
  all_goals exact ⟨Region.noConfusion, Region.noConfusion, Region.noConfusion⟩

/-- A slot at `A000` that shows RAM shows RAM that there is. -/
theorem ramSlot_offset_lt (h : c.Coherent) (upper : Bool) (addr : UInt16)
    (shows : (c.ramSlot upper).region = .cartRam) : (c.ramSlot upper).offset addr < c.ramSize := by
  have there : (c.ramStoreSlot upper).region = .cartRam →
      (c.ramStoreSlot upper).offset addr < c.ramSize := by
    intro region
    refine ramStoreSlot_offset_lt h upper addr fun none => ?_
    rw [ramStoreSlot, if_pos none] at region
    cases region
  unfold ramSlot at shows ⊢
  split
  · rename_i off
    rw [if_pos off] at shows
    cases shows
  · rename_i on
    rw [if_neg on] at shows
    split at shows
    · cases shows
    · exact there shows

end Coherence

/-! ## Images -/

/-- An image that is given byte by byte. -/
theorem byte_ofFn {n : Nat} (f : Nat → UInt8) {i : Nat} (h : i < n) :
    Rom.byte ⟨Array.ofFn fun k : Fin n => f k⟩ i = f i := by
  have size : ByteArray.size ⟨Array.ofFn fun k : Fin n => f k⟩ = n := Array.size_ofFn
  rw [Rom.byte, dif_pos (by rw [size]; exact h)]
  exact Array.getElem_ofFn _

/-- The header is all that is looked at. -/
theorem read_congr {rom rom' : Rom} (size : rom.size = rom'.size)
    (bytes : ∀ i, 0x134 ≤ i → i < 0x150 → rom.byte i = rom'.byte i) :
    Header.read rom = Header.read rom' := by
  have byte (i : Nat) (inside : i < 28) : rom.byte (0x134 + i) = rom'.byte (0x134 + i) :=
    bytes _ (Nat.le_add_right _ _) (by omega)
  have title : Header.titleOf rom = Header.titleOf rom' := by
    have field : (List.range 16).map (fun i => rom.byte (0x134 + i)) =
        (List.range 16).map fun i => rom'.byte (0x134 + i) :=
      List.map_congr_left fun i inside => byte i (by have := List.mem_range.mp inside; omega)
    rw [Header.titleOf, field, Header.titleOf]
  have checksum : Header.checksumOf rom = Header.checksumOf rom' :=
    List.foldl_ext _ _ _ fun sum i inside => by
      rw [byte i (by have := List.mem_range.mp inside; omega)]
  simp (disch := decide) only [Header.read, Header.readRomSize, size, title, checksum, bytes]

/-- The ROM size of an accepted image is a power of two, from 32 KiB to 8 MiB, and the image has
it. -/
theorem readRomSize_ok {rom : Rom} {size : Nat} (h : Header.readRomSize rom = .ok size) :
    (∃ k, k ≤ 8 ∧ size = 0x8000 * 2 ^ k) ∧ size ≤ rom.size := by
  simp only [Header.readRomSize] at h
  split at h
  · cases h
  · rename_i code
    split at h
    · cases h
    · rename_i whole
      cases h
      exact ⟨⟨(rom.byte 0x148).toNat, Nat.not_lt.mp code, Nat.shiftLeft_eq _ _⟩,
        Nat.not_lt.mp whole⟩

/-- The RAM size of an accepted image. -/
theorem readRamSize_ok {controller : Controller} {features : Features} {code : UInt8} {size : Nat}
    (h : Header.readRamSize controller features code = .ok size) :
    size ∈ [0, 0x200, 0x800, 0x2000, 0x8000, 0x10000] := by
  unfold Header.readRamSize at h
  split at h
  · cases h
    decide
  split at h
  · cases h
    decide
  split at h
  · cases h
  · rename_i size' coded
    split at h
    · cases h
    · rename_i fits
      cases h
      unfold Header.ramSizeOfCode? at coded
      split at coded <;> cases coded
      all_goals first
        | exact absurd (by decide) fits
        | decide

/-- What is known of an accepted image: its type decides its controller and its features, and the
sizes are those of its codes. -/
theorem read_ok {rom : Rom} {header : Header} (h : Header.read rom = .ok header) :
    Header.ofType? header.cartType = some (header.controller, header.features) ∧
      Header.readRomSize rom = .ok header.romSize ∧
      Header.readRamSize header.controller header.features (rom.byte 0x149) =
        .ok header.ramSize := by
  unfold Header.read at h
  split at h
  · cases h
  split at h
  · cases h
  · rename_i controller features typed
    cases hr : Header.readRomSize rom with
    | error fault =>
      rw [hr] at h
      cases h
    | ok romSize =>
      cases ha : Header.readRamSize controller features (rom.byte 0x149) with
      | error fault =>
        rw [hr, ha] at h
        cases h
      | ok ramSize =>
        rw [hr, ha] at h
        cases h
        exact ⟨typed, rfl, ha⟩

/-- The power-on state of a cartridge with sizes from the tables. -/
theorem ofHeader_coherent {header : Header} (rom : Rom)
    (romSize : ∃ k, k ≤ 8 ∧ header.romSize = 0x8000 * 2 ^ k)
    (ramSize : header.ramSize ∈ [0, 0x200, 0x800, 0x2000, 0x8000, 0x10000]) :
    (ofHeader header rom).Coherent := by
  have banks : (header.romSize / 0x4000).toUInt16.toNat * 0x4000 = header.romSize ∧
      1 < (header.romSize / 0x4000).toUInt16 := by
    obtain ⟨k, bound, size⟩ := romSize
    rw [size]
    interval_cases k <;> decide
  have ram : (header.ramSize < 0x2000 ∧ (max (header.ramSize / 0x2000) 1).toUInt8 = 1 ∨
      header.ramSize = (max (header.ramSize / 0x2000) 1).toUInt8.toNat * 0x2000) ∧
      0 < (max (header.ramSize / 0x2000) 1).toUInt8 := by
    generalize header.ramSize = n at ramSize
    simp only [List.mem_cons, List.not_mem_nil, or_false] at ramSize
    rcases ramSize with rfl | rfl | rfl | rfl | rfl | rfl <;> decide
  have two : 2 ≤ (header.romSize / 0x4000).toUInt16 := by
    have one := banks.2
    grind
  have inside : header.ramSize ≤ Header.maxRamSize := by
    generalize header.ramSize = n at ramSize
    simp only [List.mem_cons, List.not_mem_nil, or_false] at ramSize
    rcases ramSize with rfl | rfl | rfl | rfl | rfl | rfl <;> decide
  exact ⟨banks.1.symm, two, banks.2, ram.1, ram.2, Array.size_replicate, inside⟩

theorem ofRom_of_read {rom : Rom} {header : Header} (h : Header.read rom = .ok header) :
    ofRom rom = .ok (ofHeader header rom) := by
  rw [ofRom, h]
  rfl

/-- Every accepted image makes a coherent cartridge, whose ROM has the declared size. -/
theorem ofRom_coherent {rom : Rom} {c : Cartridge} (h : ofRom rom = .ok c) :
    c.Coherent ∧ c.rom.size = c.romSize := by
  cases hr : Header.read rom with
  | error fault =>
    rw [ofRom, hr] at h
    cases h
  | ok header =>
    rw [ofRom, hr] at h
    cases h
    obtain ⟨-, romRead, ramRead⟩ := read_ok hr
    obtain ⟨romSize, whole⟩ := readRomSize_ok romRead
    refine ⟨ofHeader_coherent rom romSize (readRamSize_ok ramRead), ?_⟩
    change (rom.extract 0 header.romSize).size = header.romSize
    rw [ByteArray.size_extract]
    omega

/-- A battery save that is accepted fills the RAM. -/
theorem ramSize_le_of_accepted {c : Cartridge} {data : Array UInt8}
    (accepted : c.acceptsSize data.size = true) : c.ramSize ≤ data.size := by
  simp [acceptsSize] at accepted
  omega

/-! ## Images with given codes -/

/-- The bytes of an image that is nothing but its cartridge type and the codes of its sizes. -/
def codedByte (cartType romCode ramCode : UInt8) (i : Nat) : UInt8 :=
  if i = 0x147 then cartType else if i = 0x148 then romCode else if i = 0x149 then ramCode else 0

/-- The image with these codes, of the size that they declare. -/
def coded (cartType romCode ramCode : UInt8) : Rom :=
  ⟨Array.ofFn fun i : Fin (0x8000 <<< romCode.toNat) => codedByte cartType romCode ramCode i⟩

section Coded

variable {cartType romCode ramCode : UInt8}

theorem coded_size : (coded cartType romCode ramCode).size = 0x8000 <<< romCode.toNat :=
  Array.size_ofFn

/-- The bytes of the header are there, whatever size the image has. -/
theorem coded_byte {i : Nat} (inside : i < 0x8000) :
    (coded cartType romCode ramCode).byte i = codedByte cartType romCode ramCode i := by
  refine byte_ofFn (codedByte cartType romCode ramCode) (Nat.lt_of_lt_of_le inside ?_)
  rw [Nat.shiftLeft_eq]
  exact Nat.le_mul_of_pos_right _ (Nat.two_pow_pos _)

/-- The header of such an image. -/
def codedHeader (cartType romCode ramCode : UInt8) (controller : Controller) (features : Features)
    (ramSize : Nat) : Header :=
  { title := Header.titleOf (coded cartType romCode ramCode)
    cartType := cartType
    controller := controller
    features := features
    romSize := 0x8000 <<< romCode.toNat
    ramSize := ramSize
    colour := .none
    sgb := false
    checksumOk := Header.checksumOf (coded cartType romCode ramCode) == 0 }

/-- Such an image is accepted if its codes are. -/
theorem coded_read {controller : Controller} {features : Features} {ramSize : Nat}
    (few : romCode.toNat ≤ 8) (typed : Header.ofType? cartType = some (controller, features))
    (sized : Header.readRamSize controller features ramCode = .ok ramSize) :
    Header.read (coded cartType romCode ramCode) =
      .ok (codedHeader cartType romCode ramCode controller features ramSize) := by
  have long : ¬ (coded cartType romCode ramCode).size < Header.endOffset := by
    rw [coded_size, Nat.shiftLeft_eq, Nat.not_lt]
    exact Nat.le_trans (by decide) (Nat.le_mul_of_pos_right 0x8000 (Nat.two_pow_pos _))
  have romSize : Header.readRomSize (coded cartType romCode ramCode) =
      .ok (0x8000 <<< romCode.toNat) := by
    simp only [Header.readRomSize, coded_byte (show 0x148 < 0x8000 by decide), coded_size]
    rw [if_neg (show ¬ 8 < (codedByte cartType romCode ramCode 0x148).toNat from Nat.not_lt.mpr few)]
    exact if_neg (Nat.lt_irrefl _)
  have typedByte : Header.ofType? (codedByte cartType romCode ramCode 0x147) =
      some (controller, features) := typed
  rw [Header.read, if_neg long]
  simp (disch := decide) only [romSize, coded_byte, typedByte]
  change (Header.readRamSize controller features ramCode >>= _) = _
  rw [sized]
  rfl

end Coded

end Cartridge

end DotMatrix
