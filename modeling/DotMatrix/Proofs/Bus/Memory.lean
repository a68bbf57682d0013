import DotMatrix.Proofs.Bus.Cells

/-!
# Memory on the bus

A write to memory puts the value into the byte that the address stands for; where the picture unit
uses a memory, or nothing is there, a write does nothing at all. Two addresses share a byte in two
ways only (`Mirrors`): work memory is seen twice, and cartridge RAM of less than the window repeats
in it.

Results:
* `write_put`, `write_shut`: what a write does.
* `cellAt_mirrors`, `mirrors_of_cellAt`: an address of memory shares its byte with its mirrors, and
  with no other address.
* **`read_write`**: what is read after a write to memory.
-/

namespace DotMatrix

namespace Bus

variable {b : Bus}

/-! ## Writing -/

/-- The address is one of memory that may be written now. -/
inductive Writable (b : Bus) (addr : UInt16) : Prop where
  | vram (low : 0x8000 ≤ addr) (high : addr < 0xA000) (free : b.vramBlocked = false)
  /-- The RAM of an MBC2 controller is no whole bytes. -/
  | cartRam (low : 0xA000 ≤ addr) (high : addr < 0xC000)
      (shown : (b.slotAt addr).region = .cartRam) (wide : ∀ c ∈ b.cart, c.controller ≠ .mbc2)
  | wram (low : 0xC000 ≤ addr) (high : addr < 0xFE00)
  | oam (low : 0xFE00 ≤ addr) (high : addr < 0xFEA0) (free : b.oamBlocked = false)
  | hram (low : 0xFF80 ≤ addr) (high : addr < 0xFFFF)

/-- Nothing can be written at the address now. -/
inductive Shut (b : Bus) (addr : UInt16) : Prop where
  | vram (low : 0x8000 ≤ addr) (high : addr < 0xA000) (blocked : b.vramBlocked = true)
  | cartRam (low : 0xA000 ≤ addr) (high : addr < 0xC000) (nothing : (b.slotAt addr).region = .empty)
  | oam (low : 0xFE00 ≤ addr) (high : addr < 0xFEA0) (blocked : b.oamBlocked = true)
  | unusable (low : 0xFEA0 ≤ addr) (high : addr < 0xFF00)

/-- Addresses that share a byte: work memory is seen twice, and cartridge RAM of less than the window
repeats in it. -/
inductive Mirrors (b : Bus) (addr other : UInt16) : Prop where
  | self (same : other = addr)
  | echo (low : 0xC000 ≤ addr) (high : addr < 0xFE00) (low' : 0xC000 ≤ other)
      (high' : other < 0xFE00) (same : other.toNat % 0x2000 = addr.toNat % 0x2000)
  | repeats {c : Cartridge} (inside : b.cart = some c) (low : 0xA000 ≤ addr) (high : addr < 0xC000)
      (low' : 0xA000 ≤ other) (high' : other < 0xC000)
      (same : other.toNat % min c.ramSize 0x2000 = addr.toNat % min c.ramSize 0x2000)

/-- The selected bank of work memory is not the first. -/
theorem wramBase_upper (b : Bus) : 0x1000 ≤ b.wramBase := by
  have bank : 1 ≤ (min (max b.svbk 1) 7).toNat := by
    change (1 : UInt8) ≤ if (if b.svbk ≤ 1 then 1 else b.svbk) ≤ 7
      then (if b.svbk ≤ 1 then 1 else b.svbk) else 7
    grind
  unfold wramBase wramBankSize
  split <;> omega

section Write

variable (h : b.Mapped) (built : b.Holds Cartridge.Built) {addr : UInt16}
include h built

/-- A write to memory puts the value into the byte of the address. -/
theorem write_put (w : b.Writable addr) (val : UInt8) :
    b.write addr val = b.put val (b.cellAt addr) := by
  unfold write
  cases w with
  | vram low high free =>
    have cell := cellAt_vram h built low high
    have place := Slot.offset_of_vram ((cellAt_slot (by grind)).symm.trans cell)
    rw [if_neg (by grind), if_pos high, writeVram, free, cell, place]
    rfl
  | cartRam low high region wide =>
    obtain ⟨c, inside, shown⟩ := window_of_region h built high region
    have written := Cartridge.writeRam_shown (built c inside) shown (wide c inside) addr val
    rw [if_neg (by grind), if_neg (by grind), if_pos high,
      cellAt_cartRam h built inside shown low high]
    simp only [writeCartRam, put, inside, Option.map_some, written]
  | wram low high =>
    have cell := cellAt_wram h built low high
    have place := Slot.offset_of_wram ((cellAt_slot high).symm.trans cell)
    rw [if_neg (by grind), if_neg (by grind), if_neg (by grind), if_pos high, writeWram, cell, place]
    rfl
  | oam low high free =>
    rw [if_neg (by grind), if_neg (by grind), if_neg (by grind), if_neg (by grind), if_pos high,
      writeOam, free, cellAt_oam low high, UInt16.toNat_sub_of_le _ _ low]
    rfl
  | hram low high =>
    rw [if_neg (by grind), if_neg (by grind), if_neg (by grind), if_neg (by grind),
      if_neg (by grind), if_neg (by grind), if_neg (by grind), if_pos high, cellAt_hram low high,
      UInt16.toNat_sub_of_le _ _ low]
    rfl

/-- Where nothing can be written, nothing changes. -/
theorem write_shut (shut : b.Shut addr) (val : UInt8) : b.write addr val = b := by
  unfold write
  cases shut with
  | vram low high blocked =>
    rw [if_neg (by grind), if_pos high, writeVram, blocked]
    rfl
  | cartRam low high nothing =>
    have empty := closed_of_region h built low high nothing
    have same : b.cart.map (fun c => c.writeRam addr val) = b.cart := by
      cases inside : b.cart with
      | none => rfl
      | some c => exact congrArg some (Cartridge.writeRam_shut (built c inside) (empty c inside) _ _)
    rw [if_neg (by grind), if_neg (by grind), if_pos high, writeCartRam, same]
  | oam low high blocked =>
    rw [if_neg (by grind), if_neg (by grind), if_neg (by grind), if_neg (by grind), if_pos high,
      writeOam, blocked]
    rfl
  | unusable low high =>
    rw [if_neg (by grind), if_neg (by grind), if_neg (by grind), if_neg (by grind),
      if_neg (by grind), if_pos high]

/-- A byte of memory is there. -/
theorem cellAt_stores (w : b.Writable addr) : b.Stores (b.cellAt addr) := by
  cases w with
  | vram low high =>
    rw [cellAt_vram h built low high, Stores, h.vram, Video.vramSize]
    have inside := vramBase_inside b
    omega
  | cartRam low high region =>
    obtain ⟨c, inside, shown⟩ := window_of_region h built high region
    obtain ⟨coherent, -⟩ := h.cart c inside
    have there := Cartridge.ramSize_of_window shown
    have small := Cartridge.ramStoreSlot_offset_lt coherent (addr &&& 0x1000 != 0) addr there
    rw [Cartridge.ramStoreSlot_offset (built c inside) there (Cartridge.upper_iff addr)] at small
    rw [cellAt_cartRam h built inside shown low high]
    refine ⟨c, inside, ?_⟩
    rw [coherent.ram]
    exact Nat.lt_of_lt_of_le small coherent.inside
  | wram low high =>
    rw [cellAt_wram h built low high, Stores, h.wram, wramSize, workPlace]
    have inside := wramBase_inside b
    split <;> omega
  | oam low high =>
    have low : 0xFE00 ≤ addr.toNat := low
    have high : addr.toNat < 0xFEA0 := high
    rw [cellAt_oam low high, Stores]
    exact Nat.sub_lt_left_of_lt_add low high
  | hram low high =>
    have low : 0xFF80 ≤ addr.toNat := low
    have high : addr.toNat < 0xFFFF := high
    rw [cellAt_hram low high, Stores]
    exact Nat.sub_lt_left_of_lt_add low high

/-! ## Addresses that share a byte -/

variable {other : UInt16}

/-- Mirrors share a byte. -/
theorem cellAt_mirrors (w : b.Writable addr) (m : b.Mirrors addr other) :
    b.cellAt other = b.cellAt addr := by
  cases m with
  | self same => rw [same]
  | echo low high low' high' same =>
    rw [cellAt_wram h built low high, cellAt_wram h built low' high', workPlace, workPlace, same]
    have half : other.toNat % 0x1000 = addr.toNat % 0x1000 := by omega
    rw [half]
  | @repeats c inside low high low' high' same =>
    have region : (b.slotAt addr).region = .cartRam := by
      cases w with
      | cartRam _ _ shown => exact shown
      | _ => grind
    obtain ⟨c', inside', shown⟩ := window_of_region h built high region
    obtain rfl := Option.some.inj (inside.symm.trans inside')
    rw [cellAt_cartRam h built inside shown low high, cellAt_cartRam h built inside shown low' high']
    exact congrArg (fun place => Cell.cartRam (_ + place)) same

/-- Nothing else does. -/
theorem mirrors_of_cellAt (w : b.Writable addr) (same : b.cellAt other = b.cellAt addr) :
    b.Mirrors addr other := by
  have located := cellAt_located h built other
  generalize b.cellAt other = cell at located same
  cases w with
  | vram low high =>
    rw [cellAt_vram h built low high] at same
    have low : 0x8000 ≤ addr.toNat := low
    have high : addr.toNat < 0xA000 := high
    cases located with
    | vram =>
      have place := Cell.vram.inj same
      exact .self (UInt16.toNat_inj.mp (by omega))
    | _ => cases same
  | cartRam low high region =>
    obtain ⟨c, inside, shown⟩ := window_of_region h built high region
    rw [cellAt_cartRam h built inside shown low high] at same
    cases located with
    | cartRam inside' _ low' high' =>
      obtain rfl := Option.some.inj (inside.symm.trans inside')
      exact .repeats inside low high low' high' (Nat.add_left_cancel (Cell.cartRam.inj same))
    | _ => cases same
  | wram low high =>
    rw [cellAt_wram h built low high] at same
    cases located with
    | wram low' high' =>
      have place := Cell.wram.inj same
      have upper := wramBase_upper b
      refine .echo low high low' high' ?_
      rw [workPlace, workPlace] at place
      split at place <;> split at place <;> omega
    | _ => cases same
  | oam low high =>
    rw [cellAt_oam low high] at same
    have low : 0xFE00 ≤ addr.toNat := low
    have high : addr.toNat < 0xFEA0 := high
    cases located with
    | oam =>
      have place := Cell.oam.inj same
      exact .self (UInt16.toNat_inj.mp (by omega))
    | _ => cases same
  | hram low high =>
    rw [cellAt_hram low high] at same
    have low : 0xFF80 ≤ addr.toNat := low
    have high : addr.toNat < 0xFFFF := high
    cases located with
    | hram =>
      have place := Cell.hram.inj same
      exact .self (UInt16.toNat_inj.mp (by omega))
    | _ => cases same

/-- **What is read after a write to memory**: the value, at the address and at its mirrors, and what
was there before, everywhere else. -/
theorem read_write (w : b.Writable addr) (val : UInt8) (outside : other < 0xFF00 ∨ 0xFF80 ≤ other) :
    (b.Mirrors addr other → (b.write addr val).read other = val) ∧
      (¬ b.Mirrors addr other → (b.write addr val).read other = b.read other) := by
  rw [write_put h built w, read_look _ outside, read_look _ outside, put_cellAt]
  constructor
  · intro mirrors
    rw [cellAt_mirrors h built w mirrors]
    exact look_put_same (cellAt_stores h built w)
  · intro apart
    exact look_put_other fun same => apart (mirrors_of_cellAt h built w same.symm)

end Write

end Bus

end DotMatrix
