import DotMatrix.Proofs.Bus.Inserted

/-!
# The bytes behind the addresses

Reading goes through the table of slots, writing takes the range of the address, and the cartridge
works out for itself where its RAM is written. Here every address is given the byte that it stands
for (`cellAt`): a read looks at it, and bytes are independent of each other.

The window of a cartridge is what it shows at `A000` to `BFFF`. RAM of less than the window repeats
in it, and what is written to the window goes where it is read.

Results:
* `look_put_same`, `look_put_other`, `put_cellAt`: a value that is put into a byte.
* `read_look`: a read looks at the byte of the address.
* `ramStoreSlot_offset`, `writeRam_shown`, `writeRam_shut`: the window, read and written.
* **`cellAt_located`**: the byte that an address stands for, by its range and the bank registers.
-/

namespace DotMatrix

/-- A byte that an address may stand for, the device registers aside. -/
inductive Cell
  | rom (place : Nat)
  | cartRam (place : Nat)
  | clock (register : UInt8)
  | vram (place : Nat)
  | wram (place : Nat)
  | oam (place : Nat)
  | hram (place : Nat)
  | enables
  | none
  deriving DecidableEq, Repr

/-- The byte that an address of a slot stands for. -/
def Slot.cell (s : Slot) (addr : UInt16) : Cell :=
  match s.region with
  | .rom => .rom (s.offset addr)
  | .cartRam => .cartRam (s.offset addr)
  | .clock register => .clock register
  | .vram => .vram (s.offset addr)
  | .wram => .wram (s.offset addr)
  | .empty => .none

theorem Slot.offset_of_vram {s : Slot} {addr : UInt16} {place : Nat}
    (h : s.cell addr = .vram place) : s.offset addr = place := by
  unfold Slot.cell at h
  split at h <;> cases h
  rfl

theorem Slot.offset_of_wram {s : Slot} {addr : UInt16} {place : Nat}
    (h : s.cell addr = .wram place) : s.offset addr = place := by
  unfold Slot.cell at h
  split at h <;> cases h
  rfl

namespace Bus

/-- The byte that an address stands for. -/
def cellAt (b : Bus) (addr : UInt16) : Cell :=
  if addr < 0xFE00 then (b.slotAt addr).cell addr
  else if addr < 0xFEA0 then .oam (addr - 0xFE00).toNat
  else if addr < 0xFF80 then .none
  else if addr < 0xFFFF then .hram (addr - 0xFF80).toNat
  else .enables

/-- What a byte holds. -/
def look (b : Bus) : Cell → UInt8
  | .rom place => b.cart.elim 0xFF fun c => c.romByte place
  | .cartRam place => b.cart.elim 0xFF fun c => c.ramByte place
  | .clock register => b.cart.elim 0xFF fun c => c.clock.read register
  | .vram place => b.video.vramAt place
  | .wram place => b.wram.getD place 0xFF
  | .oam place => b.video.oamAt place
  | .hram place => b.hram.toArray.getD place 0xFF
  | .enables => b.enables
  | .none => 0xFF

/-- The bus with a value put into a byte of memory. -/
def put (b : Bus) (val : UInt8) : Cell → Bus
  | .cartRam place =>
    { b with cart := b.cart.map fun c => { c with ram := c.ram.setIfInBounds place val } }
  | .vram place => { b with video := b.video.setVramAt place val }
  | .wram place => { b with wram := b.wram.setIfInBounds place val }
  | .oam place => { b with video := b.video.setOamAt place val }
  | .hram place => { b with hram := b.hram.setIfInBounds place val }
  | _ => b

/-- The byte is one of memory, and there. -/
def Stores (b : Bus) : Cell → Prop
  | .cartRam place => ∃ c ∈ b.cart, place < c.ram.size
  | .vram place => place < b.video.vram.size
  | .wram place => place < b.wram.size
  | .oam place => place < 160
  | .hram place => place < 0x7F
  | _ => False

/-! ## Bytes -/

theorem getD_set (a : Array UInt8) (i j : Nat) (val other : UInt8) :
    (a.setIfInBounds i val).getD j other = if i = j ∧ j < a.size then val else a.getD j other := by
  rw [Array.getD_eq_getD_getElem?, Array.getD_eq_getD_getElem?, Array.getElem?_setIfInBounds]
  grind

variable {b : Bus} {val : UInt8} {cell other : Cell}

theorem getD_set_ne {i j : Nat} (apart : i ≠ j) (a : Array UInt8) (val other : UInt8) :
    (a.setIfInBounds i val).getD j other = a.getD j other := by
  rw [getD_set, if_neg fun both => apart both.1]

/-- What is put into a byte of memory is there. -/
theorem look_put_same (there : b.Stores cell) : (b.put val cell).look cell = val := by
  cases cell with
  | cartRam place =>
    obtain ⟨c, inside, small⟩ := there
    have inside : b.cart = some c := inside
    simp only [look, put, inside, Option.map_some, Option.elim_some, Cartridge.ramByte]
    rw [getD_set, if_pos ⟨rfl, small⟩]
  | vram place | wram place => exact (getD_set _ _ _ _ _).trans (if_pos ⟨rfl, there⟩)
  | oam place | hram place =>
    have small : place < _ := there
    simp only [look, put, Video.oamAt, Video.setOamAt, Vector.toArray_setIfInBounds]
    exact (getD_set _ _ _ _ _).trans (if_pos ⟨rfl, small.trans_eq (Vector.size_toArray _).symm⟩)
  | _ => cases there

/-- Nothing else changes. -/
theorem look_put_other (apart : cell ≠ other) : (b.put val cell).look other = b.look other := by
  cases cell with
  | cartRam place =>
    cases other with
    | cartRam place' =>
      have apart : place ≠ place' := fun same => apart (congrArg Cell.cartRam same)
      simp only [look, put, Option.elim_map, Function.comp_def, Cartridge.ramByte,
        getD_set_ne apart]
    | rom place' => simp only [look, put, Option.elim_map, Function.comp_def, Cartridge.romByte]
    | clock register => simp only [look, put, Option.elim_map, Function.comp_def]
    | _ => rfl
  | vram place =>
    cases other with
    | vram place' => exact getD_set_ne (fun same => apart (congrArg Cell.vram same)) _ _ _
    | _ => rfl
  | wram place =>
    cases other with
    | wram place' => exact getD_set_ne (fun same => apart (congrArg Cell.wram same)) _ _ _
    | _ => rfl
  | oam place =>
    cases other with
    | oam place' =>
      simp only [look, put, Video.oamAt, Video.setOamAt, Vector.toArray_setIfInBounds]
      exact getD_set_ne (fun same => apart (congrArg Cell.oam same)) _ _ _
    | _ => rfl
  | hram place =>
    cases other with
    | hram place' =>
      simp only [look, put, Vector.toArray_setIfInBounds]
      exact getD_set_ne (fun same => apart (congrArg Cell.hram same)) _ _ _
    | _ => rfl
  | _ => rfl

/-- The table of slots stays. -/
theorem put_cellAt (addr : UInt16) : (b.put val cell).cellAt addr = b.cellAt addr := by
  cases cell <;> rfl

/-! ## Reading -/

theorem slot_look (b : Bus) (addr : UInt16) :
    b.readSlot addr = b.look ((b.slotAt addr).cell addr) := by
  cases region : (b.slotAt addr).region <;> simp only [readSlot, Slot.cell, region, look]

/-- A read looks at the byte of the address. -/
theorem read_look (b : Bus) {addr : UInt16} (outside : addr < 0xFF00 ∨ 0xFF80 ≤ addr) :
    b.read addr = b.look (b.cellAt addr) := by
  unfold read cellAt
  by_cases slots : addr < 0xFE00
  · rw [if_pos slots, if_pos slots]
    exact slot_look b addr
  by_cases objects : addr < 0xFEA0
  · rw [if_neg slots, if_neg slots, if_pos objects, if_pos objects]
    rfl
  rw [if_neg slots, if_neg slots, if_neg objects, if_neg objects]
  by_cases unusable : addr < 0xFF00
  · rw [if_pos unusable, if_pos (by grind)]
    rfl
  have high : ¬ addr < 0xFF80 := by grind
  rw [if_neg unusable, if_neg high, if_neg high]
  split <;> rfl

end Bus

/-! ## Where the addresses lead -/

namespace Cartridge

/-- What a cartridge shows at `A000` to `BFFF`. -/
def window (c : Cartridge) : Region :=
  if !c.ramEnabled then .empty
  else match c.mapper with
    | .mbc3 false register => .clock register
    | _ => if c.ramSize = 0 then .empty else .cartRam

/-- How much of the RAM there is in the window, before it repeats. -/
def windowSize (c : Cartridge) : Nat :=
  min c.ramSize 0x2000

theorem window_cases (c : Cartridge) :
    c.window = .empty ∨ (∃ register, c.window = .clock register) ∨ c.window = .cartRam := by
  unfold window
  repeat' split
  · exact .inl rfl
  · exact .inr (.inl ⟨_, rfl⟩)
  · exact .inl rfl
  · exact .inr (.inr rfl)

theorem ramSlot_window (c : Cartridge) (upper : Bool) : c.ramSlot upper =
    match c.window with
    | .cartRam => c.ramStoreSlot upper
    | .clock register => ⟨.clock register, 0, 0⟩
    | _ => .empty := by
  cases on : c.ramEnabled with
  | false => simp [ramSlot, window, on]
  | true =>
    by_cases none : c.ramSize = 0
    · have store : c.ramStoreSlot upper = .empty := if_pos none
      cases mapper : c.mapper with
      | mbc3 mapped register => cases mapped <;> simp [ramSlot, window, on, mapper, none, store]
      | _ => simp [ramSlot, window, on, mapper, none, store]
    · cases mapper : c.mapper with
      | mbc3 mapped register => cases mapped <;> simp [ramSlot, window, on, mapper, none]
      | _ => simp [ramSlot, window, on, mapper, none]

/-- RAM that is shown is there. -/
theorem ramSize_of_window {c : Cartridge} (shown : c.window = .cartRam) : c.ramSize ≠ 0 := by
  intro none
  unfold window at shown
  split at shown
  · cases shown
  split at shown <;> cases shown

/-- The bit that tells the two halves of the window apart. -/
theorem upper_iff (addr : UInt16) :
    (addr &&& 0x1000 != 0) = true ↔ 0x1000 ≤ addr.toNat % 0x2000 := by
  rw [and_bit (i := 12) rfl, Nat.testBit_eq_decide_div_mod_eq, decide_eq_true_eq]
  omega

/-- Where an address of the window leads. -/
theorem ramStoreSlot_offset {c : Cartridge} (h : c.Built) (there : c.ramSize ≠ 0) {addr : UInt16}
    {upper : Bool} (half : upper = true ↔ 0x1000 ≤ addr.toNat % 0x2000) :
    (c.ramStoreSlot upper).offset addr =
      c.shownRamBank * 0x2000 + addr.toNat % c.windowSize := by
  have repeats {n : Nat} (mask : (min (c.ramSize - 1) 0x0FFF).toUInt16.toNat = 2 ^ n - 1) :
      (addr &&& (min (c.ramSize - 1) 0x0FFF).toUInt16).toNat = addr.toNat % 2 ^ n := and_ones mask addr
  rw [ramMask_toNat] at repeats
  have sized : c.ramSize = 0x200 ∨ c.ramSize = 0x800 ∨ 0x2000 ≤ c.ramSize := by
    have table := h.ramSize
    simp only [List.mem_cons, List.not_mem_nil, or_false] at table
    omega
  rw [ramStoreSlot, if_neg there, windowSize]
  simp only [Slot.offset]
  rcases sized with size | size | whole
  · rw [repeats (n := 9) (by omega), size, if_neg (by simp)]
    rfl
  · rw [repeats (n := 11) (by omega), size, if_neg (by simp)]
    rfl
  · rw [repeats (n := 12) (by omega), Nat.min_eq_right whole]
    cases upper with
    | false =>
      have low : ¬ 0x1000 ≤ addr.toNat % 0x2000 := fun high => Bool.noConfusion (half.mpr high)
      rw [Bool.false_and, if_neg Bool.false_ne_true]
      omega
    | true =>
      have high := half.mp rfl
      rw [if_pos (by simp [whole])]
      omega

/-- What is written to RAM that is shown goes where the window leads, unless it is the narrow RAM of
an MBC2 controller. -/
theorem writeRam_shown {c : Cartridge} (h : c.Built) (shown : c.window = .cartRam)
    (wide : c.controller ≠ .mbc2) (addr : UInt16) (val : UInt8) : c.writeRam addr val =
      { c with ram :=
          c.ram.setIfInBounds (c.shownRamBank * 0x2000 + addr.toNat % c.windowSize) val } := by
  have there := ramSize_of_window shown
  have store : c.writeRamStore addr val =
      { c with ram :=
          c.ram.setIfInBounds (c.shownRamBank * 0x2000 + addr.toNat % c.windowSize) val } := by
    have region : (c.ramStoreSlot (addr &&& 0x1000 != 0)).region = .cartRam := by
      rw [ramStoreSlot, if_neg there]
    simp only [writeRamStore, region, if_true, ramStoreSlot_offset h there (upper_iff addr)]
  unfold writeRam
  split
  · rename_i off
    rw [window, if_pos off] at shown
    cases shown
  rename_i on
  split
  · rename_i mapper
    exact absurd (h.kind.symm.trans (congrArg Mapper.controller mapper)) wide
  · rename_i register mapper
    rw [window, if_neg on, mapper] at shown
    cases shown
  · exact store

/-- Where nothing is shown, nothing is written. -/
theorem writeRam_shut {c : Cartridge} (h : c.Built) (shut : c.window = .empty) (addr : UInt16)
    (val : UInt8) : c.writeRam addr val = c := by
  unfold writeRam
  split
  · rfl
  rename_i on
  rw [window, if_neg on] at shut
  split
  · rename_i mapper
    have size := h.mbc2 (h.kind.symm.trans (congrArg Mapper.controller mapper))
    rw [mapper, size] at shut
    cases shut
  · rename_i register mapper
    rw [mapper] at shut
    cases shut
  · rename_i narrow clock
    have none : c.ramSize = 0 := by
      split at shut
      · cases shut
      split at shut
      · assumption
      · cases shut
    have region : (c.ramStoreSlot (addr &&& 0x1000 != 0)).region = .empty := by
      rw [ramStoreSlot, if_pos none]
      rfl
    rw [writeRamStore, region]
    exact if_neg Region.noConfusion

end Cartridge

namespace Bus

/-- The place of an address in work memory: the first bank, or the selected one. -/
def workPlace (b : Bus) (addr : UInt16) : Nat :=
  if addr.toNat % 0x2000 < 0x1000 then addr.toNat % 0x2000
  else b.wramBase + addr.toNat % 0x1000

/-- What an address stands for, by its range and the bank registers. -/
inductive Located (b : Bus) (addr : UInt16) : Cell → Prop where
  | rom (place : Nat) (high : addr.toNat < 0x8000) : Located b addr (.rom place)
  | noRom (high : addr.toNat < 0x8000) : Located b addr .none
  | vram (low : 0x8000 ≤ addr.toNat) (high : addr.toNat < 0xA000) :
      Located b addr (.vram (b.vramBase + addr.toNat % 0x2000))
  | cartRam {c : Cartridge} (inside : b.cart = some c) (shown : c.window = .cartRam)
      (low : 0xA000 ≤ addr.toNat) (high : addr.toNat < 0xC000) :
      Located b addr (.cartRam (c.shownRamBank * 0x2000 + addr.toNat % c.windowSize))
  | clock {c : Cartridge} {register : UInt8} (inside : b.cart = some c)
      (shown : c.window = .clock register) (low : 0xA000 ≤ addr.toNat)
      (high : addr.toNat < 0xC000) : Located b addr (.clock register)
  | shut (shown : ∀ c ∈ b.cart, c.window = .empty) (low : 0xA000 ≤ addr.toNat)
      (high : addr.toNat < 0xC000) : Located b addr .none
  | wram (low : 0xC000 ≤ addr.toNat) (high : addr.toNat < 0xFE00) :
      Located b addr (.wram (b.workPlace addr))
  | oam (low : 0xFE00 ≤ addr.toNat) (high : addr.toNat < 0xFEA0) :
      Located b addr (.oam (addr.toNat - 0xFE00))
  | unusable (low : 0xFEA0 ≤ addr.toNat) (high : addr.toNat < 0xFF80) : Located b addr .none
  | hram (low : 0xFF80 ≤ addr.toNat) (high : addr.toNat < 0xFFFF) :
      Located b addr (.hram (addr.toNat - 0xFF80))
  | enables (top : addr.toNat = 0xFFFF) : Located b addr .enables

variable {b : Bus}

/-- The slot of an address is the one of its page. -/
theorem slotAt_slotFor (h : b.Mapped) (addr : UInt16) :
    b.slotAt addr = b.slotFor (addr.toNat / 0x1000) := by
  have page : (addr >>> 12).toNat = addr.toNat / 0x1000 := by
    rw [UInt16.toNat_shiftRight]
    exact Nat.shiftRight_eq_div_pow _ 12
  have low : addr.toNat / 0x1000 < 16 := by
    have word := addr.toNat_lt
    omega
  rw [slotAt, h.slots, slotTable]
  simp only [Fin.getElem_fin, Vector.getElem_ofFn, Fin.val_ofNat, page, Nat.mod_eq_of_lt low]

theorem ramSlot_located {c : Cartridge} (inside : b.cart = some c) (built : c.Built) {addr : UInt16}
    (low : 0xA000 ≤ addr.toNat) (high : addr.toNat < 0xC000) {upper : Bool}
    (half : upper = true ↔ 0x1000 ≤ addr.toNat % 0x2000) :
    b.Located addr ((c.ramSlot upper).cell addr) := by
  rw [Cartridge.ramSlot_window]
  rcases c.window_cases with shown | ⟨register, shown⟩ | shown
  · rw [shown]
    refine .shut (fun c' inside' => ?_) low high
    obtain rfl := Option.some.inj (inside.symm.trans inside')
    exact shown
  · rw [shown]
    exact .clock inside shown low high
  · have there := Cartridge.ramSize_of_window shown
    have region : (c.ramStoreSlot upper).region = .cartRam := by
      rw [Cartridge.ramStoreSlot, if_neg there]
    simp only [shown, Slot.cell, region, Cartridge.ramStoreSlot_offset built there half]
    exact .cartRam inside shown low high

theorem slotFor_located (built : b.Holds Cartridge.Built) {addr : UInt16}
    (slots : addr.toNat < 0xFE00) :
    b.Located addr ((b.slotFor (addr.toNat / 0x1000)).cell addr) := by
  have page : (addr &&& 0x0FFF).toNat = addr.toNat % 0x1000 := and_ones (n := 12) rfl addr
  have window (upper : Bool) (low : 0xA000 ≤ addr.toNat) (high : addr.toNat < 0xC000)
      (half : upper = true ↔ 0x1000 ≤ addr.toNat % 0x2000) :
      b.Located addr ((b.cart.elim .empty fun c => c.ramSlot upper).cell addr) := by
    cases inside : b.cart with
    | none =>
      refine .shut (fun c there => ?_) low high
      rw [inside] at there
      cases there
    | some c => exact ramSlot_located inside (built c inside) low high half
  unfold slotFor
  split
  · have high : addr.toNat < 0x8000 := by omega
    cases b.cart with
    | none => exact .noRom high
    | some c => exact .rom _ high
  split
  · have place : b.vramBase + (addr &&& 0x0FFF).toNat = b.vramBase + addr.toNat % 0x2000 := by omega
    change b.Located addr (.vram (b.vramBase + (addr &&& 0x0FFF).toNat))
    rw [place]
    exact .vram (by omega) (by omega)
  split
  · have place : b.vramBase + 0x1000 + (addr &&& 0x0FFF).toNat =
        b.vramBase + addr.toNat % 0x2000 := by omega
    change b.Located addr (.vram (b.vramBase + 0x1000 + (addr &&& 0x0FFF).toNat))
    rw [place]
    exact .vram (by omega) (by omega)
  split
  · exact window false (by omega) (by omega) ⟨Bool.noConfusion, by omega⟩
  split
  · exact window true (by omega) (by omega) ⟨fun _ => by omega, fun _ => rfl⟩
  have low : 0xC000 ≤ addr.toNat := by omega
  split
  · have place : 0 + (addr &&& 0x0FFF).toNat = b.workPlace addr := by
      rw [workPlace, if_pos (by omega)]
      omega
    change b.Located addr (.wram (0 + (addr &&& 0x0FFF).toNat))
    rw [place]
    exact .wram low slots
  · have place : b.wramBase + (addr &&& 0x0FFF).toNat = b.workPlace addr := by
      rw [workPlace, if_neg (by omega), page]
    change b.Located addr (.wram (b.wramBase + (addr &&& 0x0FFF).toNat))
    rw [place]
    exact .wram low slots

/-- **What an address stands for.** -/
theorem cellAt_located (h : b.Mapped) (built : b.Holds Cartridge.Built) (addr : UInt16) :
    b.Located addr (b.cellAt addr) := by
  unfold cellAt
  split
  · rename_i slots
    rw [slotAt_slotFor h]
    exact slotFor_located built slots
  rename_i low
  have low : 0xFE00 ≤ addr.toNat := Nat.not_lt.mp low
  split
  · rename_i high
    have place : (addr - 0xFE00).toNat = addr.toNat - 0xFE00 := UInt16.toNat_sub_of_le _ _ low
    rw [place]
    exact .oam low high
  rename_i objects
  split
  · rename_i high
    exact .unusable (Nat.not_lt.mp objects) high
  rename_i registers
  have low : 0xFF80 ≤ addr.toNat := Nat.not_lt.mp registers
  split
  · rename_i high
    have place : (addr - 0xFF80).toNat = addr.toNat - 0xFF80 := UInt16.toNat_sub_of_le _ _ low
    rw [place]
    exact .hram low high
  · rename_i top
    have top : 0xFFFF ≤ addr.toNat := Nat.not_lt.mp top
    have word := addr.toNat_lt
    exact .enables (by omega)

section Memory

variable (h : b.Mapped) (built : b.Holds Cartridge.Built) {addr : UInt16}
include h built

theorem cellAt_vram (low : 0x8000 ≤ addr) (high : addr < 0xA000) :
    b.cellAt addr = .vram (b.vramBase + addr.toNat % 0x2000) := by
  have low : 0x8000 ≤ addr.toNat := low
  have high : addr.toNat < 0xA000 := high
  have located := cellAt_located h built addr
  generalize b.cellAt addr = cell at located ⊢
  cases located with
  | vram => rfl
  | _ => omega

theorem cellAt_wram (low : 0xC000 ≤ addr) (high : addr < 0xFE00) :
    b.cellAt addr = .wram (b.workPlace addr) := by
  have low : 0xC000 ≤ addr.toNat := low
  have high : addr.toNat < 0xFE00 := high
  have located := cellAt_located h built addr
  generalize b.cellAt addr = cell at located ⊢
  cases located with
  | wram => rfl
  | _ => omega

theorem cellAt_cartRam {c : Cartridge} (inside : b.cart = some c) (shown : c.window = .cartRam)
    (low : 0xA000 ≤ addr) (high : addr < 0xC000) :
    b.cellAt addr = .cartRam (c.shownRamBank * 0x2000 + addr.toNat % c.windowSize) := by
  have low : 0xA000 ≤ addr.toNat := low
  have high : addr.toNat < 0xC000 := high
  have located := cellAt_located h built addr
  generalize b.cellAt addr = cell at located ⊢
  cases located with
  | cartRam there =>
    obtain rfl := Option.some.inj (inside.symm.trans there)
    rfl
  | clock there clock =>
    obtain rfl := Option.some.inj (inside.symm.trans there)
    rw [shown] at clock
    cases clock
  | shut closed =>
    rw [closed c inside] at shown
    cases shown
  | _ => omega

omit h built in
theorem cellAt_slot (slots : addr < 0xFE00) : b.cellAt addr = (b.slotAt addr).cell addr :=
  if_pos slots

omit h built in
theorem cellAt_oam (low : 0xFE00 ≤ addr) (high : addr < 0xFEA0) :
    b.cellAt addr = .oam (addr.toNat - 0xFE00) := by
  rw [cellAt, if_neg (by grind), if_pos high, UInt16.toNat_sub_of_le _ _ low]
  rfl

omit h built in
theorem cellAt_hram (low : 0xFF80 ≤ addr) (high : addr < 0xFFFF) :
    b.cellAt addr = .hram (addr.toNat - 0xFF80) := by
  rw [cellAt, if_neg (by grind), if_neg (by grind), if_neg (by grind), if_pos high,
    UInt16.toNat_sub_of_le _ _ low]
  rfl

/-- Where a slot of the window shows RAM, the cartridge does. -/
theorem window_of_region (high : addr < 0xC000)
    (region : (b.slotAt addr).region = .cartRam) : ∃ c, b.cart = some c ∧ c.window = .cartRam := by
  have cell : b.cellAt addr = .cartRam ((b.slotAt addr).offset addr) := by
    rw [cellAt_slot (show addr < 0xFE00 by grind), Slot.cell, region]
  generalize (b.slotAt addr).offset addr = place at cell
  have located := cellAt_located h built addr
  rw [cell] at located
  cases located with
  | cartRam inside shown => exact ⟨_, inside, shown⟩

/-- Where it shows nothing, the cartridge shows nothing. -/
theorem closed_of_region (low : 0xA000 ≤ addr) (high : addr < 0xC000)
    (region : (b.slotAt addr).region = .empty) : ∀ c ∈ b.cart, c.window = .empty := by
  have cell : b.cellAt addr = .none := by
    rw [cellAt_slot (show addr < 0xFE00 by grind), Slot.cell, region]
  have low : 0xA000 ≤ addr.toNat := low
  have high : addr.toNat < 0xC000 := high
  have located := cellAt_located h built addr
  rw [cell] at located
  cases located with
  | shut shown => exact shown
  | _ => omega

end Memory

end Bus

end DotMatrix
