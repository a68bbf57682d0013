import DotMatrix.Proofs.Cartridge.Nibbles

/-!
# Battery saves hold all that can be read

A battery save is the front of the RAM block, as far as the RAM goes, and the clock. What lies behind
is there, but no bank reaches it: a read never looks at it and a write never changes it. So a save
that is taken up again in another cartridge of the same image gives what the first one shows, as soon
as the bank registers agree.

Results:
* `loadSave_accepted`, `loadSave_refused`: which sizes are accepted.
* `loadSave_saveData`, `saveData_loadSave`, `loadSave_short`: saves that are taken up.
* `loadSave_same`: the save of one cartridge in another.
* `solid_lasting`, `ofRom_solid`: what is known of a cartridge in use.
* `hear_deep`, `loadSave_beyond`: nothing changes what lies behind the RAM.
* **`shows_congr`**: what can be read is decided by the bank registers, the RAM and the clock.
-/

namespace DotMatrix

namespace Cartridge

variable {c d taken : Cartridge} {data : Array UInt8}

/-! ## Sizes -/

theorem acceptsSize_iff (c : Cartridge) (size : Nat) : c.acceptsSize size = true ↔
    size = c.ramSize ∨ c.features.clock = true ∧ size = c.ramSize + Clock.savedSize := by
  simp only [acceptsSize, Bool.or_eq_true, Bool.and_eq_true, decide_eq_true_eq]

/-- With the clock a save is longer. -/
theorem ne_add_savedSize (n : Nat) : n ≠ n + Clock.savedSize :=
  Nat.ne_of_lt (Nat.lt_add_of_pos_right (by decide))

theorem loadSave_accepted (saves : c.hasSave = true) (accepted : c.acceptsSize data.size = true) :
    c.loadSave data = .ok { c with
      ram := data.extract 0 c.ramSize ++ c.ram.extract c.ramSize c.ram.size
      clock :=
        if data.size = c.ramSize + Clock.savedSize then Clock.ofBytes data c.ramSize
        else c.clock } := by
  rw [loadSave, saves, accepted]
  rfl

theorem loadSave_refused (saves : c.hasSave = true) (refused : ¬ c.acceptsSize data.size = true) :
    c.loadSave data = .error (.saveSizeMismatch c.saveSize data.size) := by
  rw [loadSave, saves, Bool.eq_false_iff.mpr refused]
  rfl

theorem loadSave_inv (loaded : c.loadSave data = .ok taken) :
    c.hasSave = true ∧ c.acceptsSize data.size = true ∧ taken = { c with
      ram := data.extract 0 c.ramSize ++ c.ram.extract c.ramSize c.ram.size
      clock :=
        if data.size = c.ramSize + Clock.savedSize then Clock.ofBytes data c.ramSize
        else c.clock } := by
  unfold loadSave at loaded
  split at loaded
  · cases loaded
  split at loaded
  · cases loaded
  · rename_i saves accepted
    exact ⟨by simpa using saves, by simpa using accepted, (Except.ok.inj loaded).symm⟩

/-! ## Taking up a save -/

theorem saveData_ok (saves : c.hasSave = true) : c.saveData = .ok
    (if c.features.clock then c.ram.extract 0 c.ramSize ++ c.clock.toBytes
      else c.ram.extract 0 c.ramSize) := by
  rw [saveData, saves]
  rfl

theorem ofBytes_append (front : Array UInt8) (clock : Clock) :
    Clock.ofBytes (front ++ clock.toBytes) front.size = clock := by
  have byte (i : Nat) :
      (front ++ clock.toBytes).getD (front.size + i) 0 = clock.toBytes.getD i 0 := by
    rw [Array.getD_eq_getD_getElem?, Array.getD_eq_getD_getElem?,
      Array.getElem?_append_right (Nat.le_add_right _ _), Nat.add_sub_cancel_left]
  have first := byte 0
  rw [Nat.add_zero] at first
  simp only [Clock.ofBytes, first, byte]
  rfl

/-- The RAM of a save, which is all of it if there is no clock. -/
theorem saveData_front (inside : c.ramSize ≤ c.ram.size) (saved : c.saveData = .ok data) :
    data.extract 0 c.ramSize = c.ram.extract 0 c.ramSize ∧ data.size = c.saveSize ∧
    (c.features.clock = true → Clock.ofBytes data c.ramSize = c.clock) := by
  have size : (c.ram.extract 0 c.ramSize).size = c.ramSize := by
    rw [Array.size_extract]
    omega
  cases saves : c.hasSave with
  | false =>
    rw [saveData, saves] at saved
    cases saved
  | true =>
    rw [saveData_ok saves] at saved
    obtain rfl := Except.ok.inj saved
    rw [saveSize, if_pos saves]
    cases clock : c.features.clock with
    | false =>
      refine ⟨?_, size, Bool.noConfusion⟩
      rw [if_neg Bool.false_ne_true, Array.extract_extract]
      congr 1
      omega
    | true =>
      refine ⟨?_, ?_, fun _ => ?_⟩
      · rw [if_pos rfl, Array.extract_append, size, Array.extract_extract]
        simp
      · rw [if_pos rfl, if_pos rfl, Array.size_append, size]
        rfl
      · have whole := ofBytes_append (c.ram.extract 0 c.ramSize) c.clock
        rw [size] at whole
        rw [if_pos rfl]
        exact whole

theorem toBytes_ofBytes {start : Nat} (size : data.size = start + Clock.savedSize) :
    (Clock.ofBytes data start).toBytes = data.extract start data.size := by
  have five : data.size = start + 5 := size
  refine Array.ext ?_ fun i inside _ => ?_
  · rw [Array.size_extract, five, Nat.min_self, Nat.add_sub_cancel_left]
    rfl
  · have few : i < 5 := inside
    rw [Array.getElem_extract]
    have there : start + i < data.size := by omega
    have byte : data.getD (start + i) 0 = data[start + i] := by
      rw [Array.getD_eq_getD_getElem?, Array.getElem?_eq_getElem there, Option.getD_some]
    rw [← byte]
    interval_cases i <;> rfl

/-- A cartridge takes up its own save. -/
theorem loadSave_saveData (inside : c.ramSize ≤ c.ram.size) (saved : c.saveData = .ok data) :
    c.loadSave data = .ok c := by
  obtain ⟨front, size, clock⟩ := saveData_front inside saved
  have saves : c.hasSave = true := by
    by_contra none
    rw [saveData, Bool.eq_false_iff.mpr none] at saved
    cases saved
  rw [saveSize, if_pos saves] at size
  have accepted : c.acceptsSize data.size = true := by
    rw [acceptsSize_iff, size]
    cases c.features.clock with
    | false => exact .inl rfl
    | true => exact .inr ⟨rfl, rfl⟩
  have ram : data.extract 0 c.ramSize ++ c.ram.extract c.ramSize c.ram.size = c.ram := by
    rw [front, Array.extract_append_extract, Nat.zero_min, Nat.max_eq_right inside,
      Array.extract_size]
  have kept : (if data.size = c.ramSize + Clock.savedSize then Clock.ofBytes data c.ramSize
      else c.clock) = c.clock := by
    split
    · rename_i whole
      refine clock ?_
      by_contra none
      rw [if_neg none] at size
      rw [size] at whole
      exact absurd whole (ne_add_savedSize _)
    · rfl
  rw [loadSave_accepted saves accepted, ram, kept]

/-- What a save fills of the RAM. -/
theorem loadSave_front (loaded : c.loadSave data = .ok taken) :
    taken.ram.extract 0 c.ramSize = data.extract 0 c.ramSize := by
  obtain ⟨-, accepted, rfl⟩ := loadSave_inv loaded
  have enough := ramSize_le_of_accepted accepted
  have size : (data.extract 0 c.ramSize).size = c.ramSize := by
    rw [Array.size_extract]
    omega
  change (data.extract 0 c.ramSize ++ _).extract 0 c.ramSize = _
  rw [Array.extract_append, size, Array.extract_extract]
  simp

/-- A save of the full length comes out again. -/
theorem saveData_loadSave (loaded : c.loadSave data = .ok taken) (full : data.size = c.saveSize) :
    taken.saveData = .ok data := by
  have front := loadSave_front loaded
  obtain ⟨saves, accepted, made⟩ := loadSave_inv loaded
  have same : taken.hasSave = true ∧ taken.ramSize = c.ramSize ∧ taken.features = c.features := by
    rw [made]
    exact ⟨saves, rfl, rfl⟩
  rw [saveSize, if_pos saves] at full
  rw [saveData_ok same.1, same.2.1, same.2.2, front]
  cases clock : c.features.clock with
  | false =>
    rw [clock, if_neg Bool.false_ne_true, Nat.add_zero] at full
    rw [if_neg Bool.false_ne_true, ← full, Array.extract_size]
  | true =>
    rw [clock, if_pos rfl] at full
    have clock : taken.clock = Clock.ofBytes data c.ramSize := by
      rw [made]
      exact if_pos full
    rw [if_pos rfl, clock, toBytes_ofBytes full, Array.extract_append_extract, Nat.zero_min,
      Nat.max_eq_right (by omega), Array.extract_size]

/-- A save without its clock block leaves the clock as it is. -/
theorem loadSave_short (loaded : c.loadSave data = .ok taken) (short : data.size = c.ramSize) :
    taken.ram.extract 0 c.ramSize = data ∧ taken.clock = c.clock := by
  refine ⟨?_, ?_⟩
  · rw [loadSave_front loaded, ← short, Array.extract_size]
  · obtain ⟨-, -, rfl⟩ := loadSave_inv loaded
    refine if_neg fun whole => ?_
    rw [short] at whole
    exact absurd whole (ne_add_savedSize _)

/-- A cartridge that takes up the save of another one with as much RAM has the RAM and the clock of
that one. -/
theorem loadSave_same (inside : c.ramSize ≤ c.ram.size) (ramSize : d.ramSize = c.ramSize)
    (saved : c.saveData = .ok data) (loaded : d.loadSave data = .ok taken) :
    taken.ram.extract 0 c.ramSize = c.ram.extract 0 c.ramSize ∧
    (c.features.clock = true → taken.clock = c.clock) ∧ taken.ramSize = c.ramSize := by
  obtain ⟨front, size, clock⟩ := saveData_front inside saved
  obtain ⟨saves, -, -⟩ := loadSave_inv (loadSave_saveData inside saved)
  have filled := loadSave_front loaded
  obtain ⟨-, -, made⟩ := loadSave_inv loaded
  rw [ramSize, front] at filled
  refine ⟨filled, fun ticks => ?_, ?_⟩
  · rw [saveSize, if_pos saves, if_pos ticks] at size
    rw [← clock ticks, made]
    simp only [ramSize, size, if_true]
  · rw [made]
    exact ramSize

/-! ## A cartridge in use -/

/-- Only a cartridge with a clock shows one. -/
def Clocked (c : Cartridge) : Prop :=
  ∀ register, c.mapper = .mbc3 false register → c.features.clock = true

/-- Registers at power-on show no clock. -/
theorem clocked_powerOn {controller : Controller} (mapper : c.mapper = Mapper.powerOn controller) :
    c.Clocked := by
  intro register shown
  rw [mapper] at shown
  cases controller <;> cases shown

theorem Clocked.congr (h : c.Clocked) (mapper : d.mapper = c.mapper)
    (features : d.features = c.features) : d.Clocked := by
  intro register shown
  rw [features]
  exact h register (mapper ▸ shown)

theorem writeMbc3_clocked (h : c.Clocked) (addr : UInt16) (val : UInt8) :
    (c.writeMbc3 addr val).Clocked := by
  unfold writeMbc3
  split
  · exact h.congr rfl rfl
  split
  · exact h.congr rfl rfl
  split
  · split
    · split
      · rintro register ⟨⟩
      split
      · rename_i asked
        exact fun register _ => (Bool.and_eq_true_iff.mp asked).2
      · exact h
    · exact h
  · exact h

/-- No control write shows a clock that is not there. -/
theorem writeControl_clocked (h : c.Clocked) (addr : UInt16) (val : UInt8) :
    (c.writeControl addr val).Clocked := by
  cases here : c.mapper with
  | mbc3 mapped old =>
    rw [writeControl, here]
    exact writeMbc3_clocked h addr val
  | _ =>
    intro register shown
    have kind := c.writeControl_mapper addr val
    rw [shown, here] at kind
    cases kind

theorem clocked_lasting : Lasting Clocked where
  refill h same := h.congr (congrArg Cartridge.mapper same :) (congrArg Cartridge.features same :)
  select h addr val := writeControl_clocked h addr val
  reset {c} _ := @clocked_powerOn c.reset c.controller rfl
  takeOver _ h := h

/-- What is known of a cartridge in use: its banks are there, it is built as its image says, and it
shows no clock that it does not have. -/
structure Solid (c : Cartridge) : Prop where
  coherent : c.Coherent
  built : c.Built
  clocked : c.Clocked

theorem solid_lasting : Lasting Solid where
  refill h same :=
    ⟨blank_coherent.mp (same ▸ blank_coherent.mpr h.coherent), built_lasting.refill h.built same,
      clocked_lasting.refill h.clocked same⟩
  select h addr val :=
    ⟨writeControl_coherent h.coherent addr val, built_lasting.select h.built addr val,
      writeControl_clocked h.clocked addr val⟩
  reset h :=
    ⟨reset_coherent h.coherent, built_lasting.reset h.built, clocked_lasting.reset h.clocked⟩
  takeOver live h :=
    ⟨⟨h.coherent.romSize, h.coherent.romBanks, h.coherent.romBank, h.coherent.ramSize,
      h.coherent.ramBank, h.coherent.ram, h.coherent.inside⟩,
      built_lasting.takeOver live.built h.built, h.clocked⟩

theorem ofRom_mapper {rom : Rom} (accepted : ofRom rom = .ok c) :
    c.mapper = Mapper.powerOn c.controller := by
  cases read : Header.read rom with
  | error fault =>
    rw [ofRom, read] at accepted
    cases accepted
  | ok header =>
    rw [ofRom_of_read read] at accepted
    cases accepted
    rfl

theorem ofRom_solid {rom : Rom} (accepted : ofRom rom = .ok c) : c.Solid :=
  ⟨(ofRom_coherent accepted).1, ofRom_built accepted, clocked_powerOn (ofRom_mapper accepted)⟩

/-! ## What lies behind the RAM -/

/-- The bytes of the RAM block behind the RAM that there is. -/
def beyond (c : Cartridge) : Array UInt8 :=
  c.ram.extract c.ramSize c.ram.size

/-- A write in front leaves what lies behind. -/
theorem beyond_set {place : Nat} (front : place < c.ramSize) (val : UInt8) :
    beyond { c with ram := c.ram.setIfInBounds place val } = c.beyond := by
  have apart (i : Nat) : place ≠ c.ramSize + i := by omega
  simp only [beyond, Array.size_setIfInBounds]
  refine Array.ext_getElem? fun i => ?_
  simp only [Array.getElem?_extract, Array.size_setIfInBounds,
    Array.getElem?_setIfInBounds_ne (apart i)]

/-- The RAM that a write reaches is there. -/
theorem writeRam_beyond (h : c.Solid) (addr : UInt16) (val : UInt8) :
    (c.writeRam addr val).beyond = c.beyond := by
  unfold writeRam
  split
  · rfl
  split
  · rename_i mapper
    have size := h.built.mbc2 (h.built.kind.symm.trans (congrArg Mapper.controller mapper))
    have small : (addr &&& 0x01FF).toNat < 0x200 := Nat.lt_succ_of_le (masked_le addr 0x01FF)
    exact beyond_set (size ▸ small) _
  · rfl
  · simp only [writeRamStore]
    split
    · rename_i shows
      refine beyond_set (ramStoreSlot_offset_lt h.coherent _ addr fun none => ?_) val
      rw [ramStoreSlot, if_pos none] at shows
      cases shows
    · rfl

theorem hear_beyond (h : c.Solid) (addr : UInt16) (val : UInt8) :
    (c.hear addr val).beyond = c.beyond := by
  unfold hear
  split
  · exact congrArg (fun c => c.beyond) (c.writeControl_unbanked addr val :)
  split
  · exact writeRam_beyond h addr val
  · rfl

/-- A save does not reach behind the RAM. -/
theorem loadSave_beyond (loaded : c.loadSave data = .ok taken) : taken.beyond = c.beyond := by
  obtain ⟨-, accepted, made⟩ := loadSave_inv loaded
  have enough := ramSize_le_of_accepted accepted
  have ram : taken.ram = data.extract 0 c.ramSize ++ c.beyond := by
    rw [made]
    rfl
  have ramSize : taken.ramSize = c.ramSize := by
    rw [made]
  have front : (data.extract 0 c.ramSize).size = c.ramSize := by
    rw [Array.size_extract]
    omega
  rw [beyond, ram, ramSize, Array.size_append, front, Array.extract_append, front]
  simp

/-- How much RAM there is, and what lies behind. -/
def depth (c : Cartridge) : Nat × Array UInt8 :=
  (c.ramSize, c.beyond)

/-- Writes do not reach there. -/
theorem hear_deep (h : c.Solid) (addr : UInt16) (val : UInt8) :
    (c.hear addr val).Solid ∧ (c.hear addr val).depth = c.depth := by
  have ramSize : (c.hear addr val).ramSize = c.ramSize := by
    unfold hear
    split
    · exact congrArg (fun c => c.ramSize) (c.writeControl_unbanked addr val :)
    split
    · exact congrArg (fun c => c.ramSize) (c.writeRam_blank addr val :)
    · rfl
  refine ⟨?_, Prod.ext ramSize (hear_beyond h addr val)⟩
  unfold hear
  split
  · exact solid_lasting.select h addr val
  split
  · exact solid_lasting.refill h (c.writeRam_blank addr val)
  · exact h

theorem tickClock_deep (h : c.Solid) : c.tickClock.Solid ∧ c.tickClock.depth = c.depth := by
  unfold tickClock
  split
  · exact ⟨solid_lasting.refill h rfl, rfl⟩
  · exact ⟨h, rfl⟩

/-! ## What is shown -/

/-- The byte that a cartridge shows at an address of its window. -/
def shows (c : Cartridge) (addr : UInt16) : UInt8 :=
  match c.window with
  | .cartRam => c.ramByte (c.shownRamBank * 0x2000 + addr.toNat % c.windowSize)
  | .clock register => c.clock.read register
  | _ => 0xFF

/-- What the bank controller has been told: its registers, the selected banks, and whether RAM is
on. -/
def registers (c : Cartridge) : Mapper × UInt16 × UInt8 × Bool :=
  (c.mapper, c.romBank, c.ramBank, c.ramEnabled)

theorem loadSave_registers (loaded : c.loadSave data = .ok taken) :
    taken.registers = c.registers := by
  obtain ⟨-, -, rfl⟩ := loadSave_inv loaded
  rfl

/-- Only control writes reach the registers. -/
theorem hear_registers (c : Cartridge) {addr : UInt16} (high : ¬ addr < 0x8000) (val : UInt8) :
    (c.hear addr val).registers = c.registers := by
  unfold hear
  rw [if_neg high]
  split
  · exact congrArg (fun c => c.registers) (c.writeRam_blank addr val :)
  · rfl

/-- An address of the window leads to RAM that there is. -/
theorem place_lt (h : c.Coherent) (shown : c.window = .cartRam) (n : Nat) :
    c.shownRamBank * 0x2000 + n % c.windowSize < c.ramSize := by
  have there := ramSize_of_window shown
  have bank := shownRamBank_lt h
  have inside : n % c.windowSize < c.windowSize := Nat.mod_lt _ (by unfold windowSize; omega)
  unfold windowSize at *
  rcases h.ramSize with ⟨small, one⟩ | whole
  · have first : c.shownRamBank = 0 := by
      rw [one] at bank
      exact Nat.lt_one_iff.mp bank
    omega
  · omega

/-- A clock that is shown is there. -/
theorem Clocked.window (h : c.Clocked) {register : UInt8} (shown : c.window = .clock register) :
    c.features.clock = true := by
  unfold Cartridge.window at shown
  split at shown
  · cases shown
  split at shown
  · rename_i mapper
    exact h _ mapper
  · split at shown <;> cases shown

theorem extract_front (bytes : Array UInt8) {place n : Nat} (inside : place < n) :
    (bytes.extract 0 n)[place]? = bytes[place]? := by
  rw [Array.getElem?_extract]
  grind

/-- Cartridges with the same bytes in front show the same there. -/
theorem ramByte_congr {n place : Nat} (front : d.ram.extract 0 n = c.ram.extract 0 n)
    (inside : place < n) : d.ramByte place = c.ramByte place := by
  have same := congrArg (·[place]?) front
  simp only [extract_front _ inside] at same
  rw [ramByte, ramByte, Array.getD_eq_getD_getElem?, Array.getD_eq_getD_getElem?, same]

/-- What a cartridge shows is decided by the registers of its controller, the RAM that there is, and
the clock if there is one. -/
theorem shows_congr (h : c.Solid) (registers : d.registers = c.registers)
    (ramSize : d.ramSize = c.ramSize) (ram : d.ram.extract 0 c.ramSize = c.ram.extract 0 c.ramSize)
    (clock : c.features.clock = true → d.clock = c.clock) (addr : UInt16) :
    d.shows addr = c.shows addr := by
  simp only [Cartridge.registers, Prod.mk.injEq] at registers
  obtain ⟨mapper, -, ramBank, ramEnabled⟩ := registers
  have window : d.window = c.window := by
    rw [Cartridge.window, Cartridge.window, mapper, ramEnabled, ramSize]
  have bank : d.shownRamBank = c.shownRamBank := by
    rw [shownRamBank, shownRamBank, mapper, ramBank]
  have size : d.windowSize = c.windowSize := by
    rw [windowSize, windowSize, ramSize]
  rw [shows, shows, window]
  split
  · rename_i shown
    rw [bank, size]
    exact ramByte_congr ram (place_lt h.coherent shown _)
  · rename_i register shown
    rw [clock (h.clocked.window shown)]
  · rfl

/-- What is written to RAM that is shown is shown, unless it is the narrow RAM of an MBC2 controller. -/
theorem writeRam_shows (h : c.Solid) (shown : c.window = .cartRam) (wide : c.controller ≠ .mbc2)
    (addr : UInt16) (val : UInt8) : (c.writeRam addr val).shows addr = val := by
  rw [writeRam_shown h.built shown wide]
  have window : window { c with
      ram := c.ram.setIfInBounds (c.shownRamBank * 0x2000 + addr.toNat % c.windowSize) val } =
      .cartRam := shown
  have inside := place_lt h.coherent shown addr.toNat
  have whole := h.coherent.inside
  rw [shows, window]
  refine (Bus.getD_set _ _ _ _ _).trans (if_pos ⟨rfl, ?_⟩)
  change c.shownRamBank * 0x2000 + addr.toNat % c.windowSize < c.ram.size
  rw [h.coherent.ram]
  omega

end Cartridge

end DotMatrix
