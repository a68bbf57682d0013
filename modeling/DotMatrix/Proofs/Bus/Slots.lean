import DotMatrix.Proofs.Bus.Layout
import DotMatrix.Proofs.Cartridge.Banks
import DotMatrix.Proofs.Snapshot.File

/-!
# The slots are up to date and in bounds

`Bus.Mapped` is the invariant of the address space: the stored table is the one that the registers
give, the cartridge is coherent, and the memories have their sizes. It depends on the layout alone,
so an operation keeps it by leaving the layout alone or by rebuilding the table.

Results:
* `write_mapped`, `step_mapped`, `restore_mapped` and others: every operation keeps the invariant.
* `Reachable.mapped`: the invariant holds of every bus that can be reached.
* **`reachable_slots`**: on every such bus the slots are up to date, show nothing but bytes that
  exist, and every selected bank is one of those there are.
-/

namespace DotMatrix

theorem Cartridge.blank_coherent {c : Cartridge} : c.blank.Coherent ↔ c.Coherent := by
  constructor
  · intro h
    have size : (Array.replicate c.ram.size (0 : UInt8)).size = Header.maxRamSize := h.ram
    rw [Array.size_replicate] at size
    exact ⟨h.romSize, h.romBanks, h.romBank, h.ramSize, h.ramBank, size, h.inside⟩
  · intro h
    have size : c.blank.ram.size = Header.maxRamSize := by
      rw [← h.ram]
      exact Array.size_replicate
    exact ⟨h.romSize, h.romBanks, h.romBank, h.ramSize, h.ramBank, size, h.inside⟩

namespace Bus

/-- A cartridge with a ROM of the declared size and banks that exist. -/
def Fitted (c : Cartridge) : Prop :=
  c.Coherent ∧ c.rom.size = c.romSize

/-- The table of slots is up to date, and there is something behind every slot. -/
structure Mapped (b : Bus) : Prop where
  slots : b.slots = b.slotTable
  cart : ∀ c ∈ b.cart, Fitted c
  wram : b.wram.size = wramSize
  vram : b.video.vram.size = Video.vramSize

theorem fitted_of_blank {cart cart' : Option Cartridge}
    (h : cart'.map Cartridge.blank = cart.map Cartridge.blank) (fitted : ∀ c ∈ cart, Fitted c) :
    ∀ c ∈ cart', Fitted c := by
  intro c' hc'
  have inside : c'.blank ∈ cart.map Cartridge.blank := h ▸ Option.mem_map_of_mem _ hc'
  obtain ⟨c, hc, same⟩ := Option.mem_map.mp inside
  obtain ⟨coherent, rom⟩ := fitted c hc
  refine ⟨Cartridge.blank_coherent.mp (same ▸ Cartridge.blank_coherent.mpr coherent), ?_⟩
  simp only [Cartridge.blank, Cartridge.mk.injEq] at same
  obtain ⟨romSame, -, -, -, -, sizeSame, -⟩ := same
  rw [← romSame, ← sizeSame]
  exact rom

/-- The invariant is one of the layout. -/
theorem Mapped.congr {b b' : Bus} (h : b.Mapped) (same : b'.layout = b.layout) : b'.Mapped where
  slots := by
    rw [slotTable_congr same, ← h.slots]
    exact congrArg Layout.slots same
  cart := fitted_of_blank (congrArg Layout.cart same) h.cart
  wram := (congrArg Layout.wramSize same).trans h.wram
  vram := by
    have video : b'.video.setup = b.video.setup := congrArg Layout.video same
    exact (congrArg (fun setup => setup.2.1) video).trans h.vram

theorem remap_slotTable (b : Bus) : b.remap.slotTable = b.slotTable := by
  unfold remap
  exact slotTable_of rfl rfl rfl rfl

/-- A table that has just been rebuilt is up to date. -/
theorem remap_mapped {b : Bus} (cart : ∀ c ∈ b.cart, Fitted c) (wram : b.wram.size = wramSize)
    (vram : b.video.vram.size = Video.vramSize) : b.remap.Mapped where
  slots := by
    have table : b.remap.slots = b.slotTable := by unfold remap; rfl
    rw [table, remap_slotTable]
  cart := by
    unfold remap
    exact cart
  wram := by
    unfold remap
    exact wram
  vram := by
    unfold remap
    exact vram

/-! ## Operations -/

section Operations

variable {b : Bus}

/-- The slots stay up to date when the layout stays, and when a bank is selected. -/
theorem Kept.mapped {b' : Bus} (kept : b.Kept b') (h : b.Mapped) : b'.Mapped := by
  cases kept with
  | same layout => exact h.congr layout
  | @selected b0 model cart wram video sound =>
    have vram : b0.video.vram.size = b.video.vram.size := congrArg Prod.fst video
    refine remap_mapped ?_ (wram.trans h.wram) (vram.trans h.vram)
    intro c hc
    rcases cart with same | ⟨addr, val, written⟩
    · exact h.cart c (same ▸ hc)
    · rw [written] at hc
      obtain ⟨old, inside, rfl⟩ := Option.mem_map.mp hc
      obtain ⟨coherent, rom⟩ := h.cart old inside
      refine ⟨Cartridge.writeControl_coherent coherent addr val, ?_⟩
      have unbanked := old.writeControl_unbanked addr val
      simp only [Cartridge.unbanked, Cartridge.mk.injEq] at unbanked
      obtain ⟨romSame, -, -, -, -, sizeSame, -⟩ := unbanked
      rw [romSame, sizeSame]
      exact rom

/-- A write keeps the slots up to date. -/
theorem write_mapped (h : b.Mapped) (addr : UInt16) (val : UInt8) : (b.write addr val).Mapped :=
  (write_kept b addr val).mapped h

/-- The boot program leaves the slots up to date, whatever was before. -/
theorem reset_mapped (cart : ∀ c ∈ b.cart, Fitted c) (model : Model) : (b.reset model).Mapped := by
  refine remap_mapped ?_ Array.size_replicate Array.size_replicate
  intro c hc
  obtain ⟨old, inside, rfl⟩ := Option.mem_map.mp hc
  obtain ⟨coherent, rom⟩ := cart old inside
  exact ⟨Cartridge.reset_coherent coherent, rom⟩

theorem new_mapped (model : Model) : (new model).Mapped :=
  reset_mapped (by intro c hc; cases hc) model

/-- A cartridge of an accepted image leaves the slots up to date. -/
theorem insert_mapped (h : b.Mapped) {cart : Cartridge} (fitted : Fitted cart) :
    (b.insert cart).Mapped := by
  refine remap_mapped ?_ h.wram h.vram
  rintro c ⟨⟩
  exact fitted

/-- Time leaves the slots up to date. -/
theorem step_mapped (h : b.Mapped) (cycles : Nat) : (b.step cycles).Mapped :=
  h.congr (step_layout b cycles)

theorem switchSpeed_mapped (h : b.Mapped) : b.switchSpeed.Mapped :=
  h.congr (switchSpeed_layout b)

/-! ## Snapshots -/

theorem stored_fitted {live saved joined : Option Cartridge}
    (h : Snapshot.joinCartridge live (saved.map Cartridge.stored) = .ok joined)
    (fittedLive : ∀ c ∈ live, Fitted c) (fittedSaved : ∀ c ∈ saved, Fitted c) :
    ∀ c ∈ joined, Fitted c := by
  rcases Snapshot.joinCartridge_ok h with ⟨-, -, rfl⟩ | ⟨l, s, rfl, hs, same, rfl⟩
  · intro c hc
    cases hc
  · rintro c ⟨⟩
    obtain ⟨old, inside, rfl⟩ := Option.map_eq_some_iff.mp hs
    obtain ⟨coherent, -⟩ := fittedSaved old inside
    obtain ⟨-, rom⟩ := fittedLive l rfl
    simp only [Snapshot.sameCartridge, Bool.and_eq_true, beq_iff_eq] at same
    exact ⟨⟨coherent.romSize, coherent.romBanks, coherent.romBank, coherent.ramSize,
      coherent.ramBank, coherent.ram, coherent.inside⟩, rom.trans same.1.2.symm⟩

/-- A snapshot of a bus whose slots are up to date leaves them up to date where it is restored. -/
theorem restore_mapped {saved : Bus} {cpu savedCpu : Cpu} {m : Core} (h : b.Mapped)
    (hs : saved.Mapped) (fits : saved.Fits)
    (restored : Snapshot.restore ⟨cpu, b⟩ (Snapshot.encode ⟨savedCpu, saved⟩) = .ok m) :
    m.bus.Mapped := by
  obtain ⟨bus, joined, rfl⟩ := Snapshot.restore_ok fits restored
  obtain ⟨-, -, cart, joinedCart, rfl⟩ := Snapshot.joinBus_ok joined
  have mapped := remap_mapped (b := { saved.stored with cart := cart }.adoptHost b)
    (stored_fitted joinedCart h.cart hs.cart) hs.wram hs.vram
  exact mapped.congr rfl

end Operations

/-! ## Every bus that can be reached -/

/-- The buses that can be reached: from power-up by writes, cartridges of accepted images, resets,
time, changes of speed, and snapshots of buses that can be reached. -/
inductive Reachable : Bus → Prop where
  | new (model : Model) : Reachable (Bus.new model)
  | write {b : Bus} (addr : UInt16) (val : UInt8) : Reachable b → Reachable (b.write addr val)
  | insert {b : Bus} {rom : Rom} {cart : Cartridge} :
      Reachable b → Cartridge.ofRom rom = .ok cart → Reachable (b.insert cart)
  | reset {b : Bus} (model : Model) : Reachable b → Reachable (b.reset model)
  | step {b : Bus} (cycles : Nat) : Reachable b → Reachable (b.step cycles)
  | switchSpeed {b : Bus} : Reachable b → Reachable b.switchSpeed
  | restore {b saved : Bus} {cpu savedCpu : Cpu} {m : Core} :
      Reachable b → Reachable saved → saved.Fits →
        Snapshot.restore ⟨cpu, b⟩ (Snapshot.encode ⟨savedCpu, saved⟩) = .ok m → Reachable m.bus

theorem Reachable.mapped {b : Bus} (h : b.Reachable) : b.Mapped := by
  induction h with
  | new model => exact new_mapped model
  | write addr val _ ih => exact write_mapped ih addr val
  | insert _ accepted ih => exact insert_mapped ih (Cartridge.ofRom_coherent accepted)
  | reset model _ ih => exact reset_mapped ih.cart model
  | step cycles _ ih => exact step_mapped ih cycles
  | switchSpeed _ ih => exact switchSpeed_mapped ih
  | restore _ _ fits restored ih ihSaved => exact restore_mapped ih ihSaved fits restored

/-! ## Bounds -/

/-- Whatever the address, the slot shows a byte that exists. -/
def InBounds (b : Bus) (s : Slot) : Prop :=
  match s.region with
  | .rom => ∃ c ∈ b.cart, ∀ addr, s.offset addr < c.romSize
  | .cartRam => ∃ c ∈ b.cart, ∀ addr, s.offset addr < c.ramSize
  | .vram => ∀ addr, s.offset addr < Video.vramSize
  | .wram => ∀ addr, s.offset addr < wramSize
  | .clock _ => True
  | .empty => True

/-- The selected bank of video memory is one of two. -/
theorem videoBank_le (b : Bus) : (b.video.vbk &&& 1).toNat ≤ 1 := by
  rw [UInt8.toNat_and]
  exact Nat.and_le_right

theorem vramBase_inside (b : Bus) : b.vramBase + 0x2000 ≤ 0x4000 := by
  have bit := b.videoBank_le
  unfold vramBase Video.bankSize
  split <;> omega

/-- The selected bank of work memory is one of eight. -/
theorem wramBase_inside (b : Bus) : b.wramBase + 0x1000 ≤ 0x8000 := by
  have bank : (min (max b.svbk 1) 7).toNat ≤ 7 := by
    change (if max b.svbk 1 ≤ 7 then max b.svbk 1 else 7).toNat ≤ 7
    split
    · exact UInt8.le_iff_toNat_le.mp (by assumption)
    · decide
  unfold wramBase wramBankSize
  split <;> omega

/-- A slot of 4 KiB that ends with its memory or before lies inside it. -/
theorem offset_lt {base size : Nat} (region : Region) (inside : base + 0x1000 ≤ size)
    (addr : UInt16) : (Slot.mk region base 0x0FFF).offset addr < size := by
  have masked : (addr &&& 0x0FFF).toNat ≤ 0x0FFF := Cartridge.masked_le addr 0x0FFF
  simp only [Slot.offset]
  omega

theorem ramSlot_inBounds {b : Bus} {c : Cartridge} (h : c.Coherent) (inside : b.cart = some c)
    (upper : Bool) : b.InBounds (c.ramSlot upper) := by
  unfold InBounds
  split
  case h_1 shows => exact absurd shows (Cartridge.ramSlot_region c upper).1
  case h_2 shows =>
    exact ⟨c, inside, fun addr => Cartridge.ramSlot_offset_lt h upper addr shows⟩
  case h_3 shows => exact absurd shows (Cartridge.ramSlot_region c upper).2.1
  case h_4 shows => exact absurd shows (Cartridge.ramSlot_region c upper).2.2
  case h_5 => trivial
  case h_6 => trivial

/-- Every slot of the table that the registers give is in bounds. -/
theorem slotFor_inBounds {b : Bus} (h : b.Mapped) (i : Nat) : b.InBounds (b.slotFor i) := by
  have vram := vramBase_inside b
  have wram := wramBase_inside b
  unfold slotFor
  split
  · rename_i low
    cases hc : b.cart with
    | none => trivial
    | some c => exact ⟨c, hc, Cartridge.romSlot_offset_lt (h.cart c hc).1 low⟩
  split
  · exact offset_lt .vram (Nat.le_trans (Nat.add_le_add_left (by decide) _) vram)
  split
  · exact offset_lt .vram (Nat.add_assoc _ 0x1000 0x1000 ▸ vram)
  split
  · cases hc : b.cart with
    | none => trivial
    | some c => exact ramSlot_inBounds (h.cart c hc).1 hc false
  split
  · cases hc : b.cart with
    | none => trivial
    | some c => exact ramSlot_inBounds (h.cart c hc).1 hc true
  split
  · exact offset_lt .wram (by decide)
  · exact offset_lt .wram wram

/-- On every bus that can be reached, the table of slots is the one that the registers give, every
slot shows bytes that exist, and every selected bank is one of those there are. -/
theorem reachable_slots {b : Bus} (h : b.Reachable) :
    b.slots = b.slotTable ∧ (∀ i : Fin 16, b.InBounds b.slots[i]) ∧
      ∀ c ∈ b.cart, 0 < c.romBanks ∧ c.romBank < c.romBanks ∧ c.lowBank < c.romBanks ∧
        0 < c.ramBanks ∧ c.ramBank < c.ramBanks := by
  have mapped := h.mapped
  refine ⟨mapped.slots, fun i => ?_, fun c hc => ?_⟩
  · have slot : b.slots[i] = b.slotFor i := by
      rw [mapped.slots]
      simp [slotTable]
    rw [slot]
    exact slotFor_inBounds mapped i
  · obtain ⟨coherent, -⟩ := mapped.cart c hc
    exact ⟨coherent.romBanks_pos, coherent.romBank, Cartridge.lowBank_lt coherent,
      coherent.ramBanks_pos, coherent.ramBank⟩

/-- An image of 256 KiB with the byte `03` everywhere is accepted: a controller with bank registers,
16 banks of ROM and 4 banks of RAM. -/
theorem filled_accepted : ∃ cart, Cartridge.ofRom ⟨Array.replicate 0x40000 3⟩ = .ok cart := by
  have size : ByteArray.size ⟨Array.replicate 0x40000 3⟩ = 0x40000 := Array.size_replicate
  have filled (i : Nat) (hi : i < 0x40000) : Rom.byte ⟨Array.replicate 0x40000 3⟩ i = 3 := by
    rw [Rom.byte, dif_pos (by rw [size]; exact hi)]
    exact Array.getElem_replicate _
  have romSize : Header.readRomSize ⟨Array.replicate 0x40000 3⟩ = .ok 0x40000 := by
    simp [Header.readRomSize, filled 0x148 (by decide), size]
  have read : ∃ header, Header.read ⟨Array.replicate 0x40000 3⟩ = .ok header := by
    rw [Header.read, if_neg (by rw [size]; decide), filled 0x147 (by decide), romSize,
      filled 0x149 (by decide)]
    exact ⟨_, rfl⟩
  obtain ⟨header, accepted⟩ := read
  refine ⟨Cartridge.ofHeader header ⟨Array.replicate 0x40000 3⟩, ?_⟩
  rw [Cartridge.ofRom, accepted]
  rfl

/-- A bus with such a cartridge, bank 3 of its RAM selected and the bank registers in mode 1. -/
theorem reachable_slots_filled :
    ∃ cart : Cartridge,
      let b := (((Bus.new .gbc).insert cart).write 0x4000 3).write 0x6000 1
      b.Reachable ∧ b.slots = b.slotTable ∧ (∀ i : Fin 16, b.InBounds b.slots[i]) ∧
        ∀ c ∈ b.cart, c.ramBank < c.ramBanks := by
  obtain ⟨cart, accepted⟩ := filled_accepted
  have reached := (((Reachable.new .gbc).insert accepted).write 0x4000 3).write 0x6000 1
  obtain ⟨slots, bounds, banks⟩ := reachable_slots reached
  exact ⟨cart, reached, slots, bounds, fun c hc => (banks c hc).2.2.2.2⟩

end Bus

end DotMatrix
