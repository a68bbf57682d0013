import DotMatrix.Proofs.Bus.Cells

/-!
# The RAM inside an MBC2 controller

The RAM inside an MBC2 controller has 512 cells of four bits, which repeat in the window. The upper
four bits of a cell that is written are stored as ones. A battery save is stored as it comes, and at
power-on the cells are zero: there the upper bits are not forced.

A cartridge hears of writes, resets and battery saves (`Event`). `lastStored` tells of a cell what
has been stored there last, by a history of events.

Results:
* `after_narrow`, `after_ramByte`: what one event does to the cells.
* **`afterAll_ramByte`**: what a cell holds after any history.
* `Stored.low`, `Stored.high`: what the two halves of its byte are.
-/

namespace DotMatrix

namespace Cartridge

/-! ## What a cartridge hears of -/

/-- What happens to a cartridge. -/
inductive Event
  | write (addr : UInt16) (val : UInt8)
  | reset
  | load (data : Array UInt8)
  deriving DecidableEq, Repr

/-- The cartridge after a write on the bus. -/
def hear (c : Cartridge) (addr : UInt16) (val : UInt8) : Cartridge :=
  if addr < 0x8000 then c.writeControl addr val
  else if 0xA000 ≤ addr ∧ addr < 0xC000 then c.writeRam addr val
  else c

/-- The cartridge after an event. A battery save that is refused changes nothing. -/
def after (c : Cartridge) : Event → Cartridge
  | .write addr val => c.hear addr val
  | .reset => c.reset
  | .load data => (c.loadSave data).toOption.getD c

/-- The cartridge after some events. -/
def afterAll (c : Cartridge) (events : List Event) : Cartridge :=
  events.foldl after c

theorem afterAll_append (c : Cartridge) (events rest : List Event) :
    c.afterAll (events ++ rest) = (c.afterAll events).afterAll rest :=
  List.foldl_append

/-! ## What is stored -/

/-- Where the byte of a cell comes from: nothing has been stored since power-on, or it has been
written on the bus, or it comes from a battery save. -/
inductive Stored
  | never
  | written (val : UInt8)
  | saved (val : UInt8)
  deriving DecidableEq, Repr

namespace Stored

/-- The value that has been stored. -/
def value : Stored → UInt8
  | never => 0
  | written val => val
  | saved val => val

/-- The byte that the cell holds then. -/
def byte : Stored → UInt8
  | never => 0
  | written val => (val &&& 0x0F) ||| 0xF0
  | saved val => val

/-- Whether the upper half of the cell is all ones. -/
def Full : Stored → Prop
  | never => False
  | written _ => True
  | saved val => val &&& 0xF0 = 0xF0

instance (s : Stored) : Decidable s.Full :=
  match s with
  | never => inferInstanceAs (Decidable False)
  | written _ => inferInstanceAs (Decidable True)
  | saved val => inferInstanceAs (Decidable (val &&& 0xF0 = 0xF0))

/-- The lower half of the byte is that of the value. -/
theorem low (s : Stored) : s.byte &&& 0x0F = s.value &&& 0x0F := by
  cases s with
  | written val =>
    rw [byte, or_and, UInt8.and_assoc]
    exact UInt8.or_zero
  | _ => rfl

/-- The upper half is all ones exactly for bytes that have been written, or saved so. -/
theorem high (s : Stored) : s.byte &&& 0xF0 = 0xF0 ↔ s.Full := by
  cases s with
  | never => decide
  | written val =>
    have ones : ((val &&& 0x0F) ||| 0xF0) &&& 0xF0 = 0xF0 := by
      rw [UInt8.or_comm, UInt8.and_comm]
      exact and_or_self _ _
    exact iff_of_true ones trivial
  | saved val => exact Iff.rfl

end Stored

/-- What an event stores in a cell, if it does. RAM must be enabled for a write, and a battery save
must be accepted. -/
def stores (c : Cartridge) (cell : Nat) : Event → Option Stored
  | .write addr val =>
    if c.ramEnabled ∧ 0xA000 ≤ addr ∧ addr < 0xC000 ∧ addr.toNat % 0x200 = cell then
      some (.written val)
    else none
  | .reset => none
  | .load data =>
    if c.hasSave && c.acceptsSize data.size then some (.saved (data.getD cell 0)) else none

/-- What has been stored last in a cell, after `last`, by some events. -/
def lastStored (cell : Nat) (c : Cartridge) (last : Stored) : List Event → Stored
  | [] => last
  | e :: rest => lastStored cell (c.after e) ((c.stores cell e).getD last) rest

/-! ## An MBC2 cartridge -/

/-- A cartridge with an MBC2 controller. It has a single bank of RAM, and no clock. -/
structure Narrow (c : Cartridge) : Prop where
  mapper : c.mapper = .mbc2
  controller : c.controller = .mbc2
  clockless : c.features.clock = false
  ramSize : c.ramSize = Header.mbc2RamSize
  ramBank : c.ramBank = 0
  ram : c.ram.size = Header.maxRamSize

variable {c : Cartridge}

/-- Enabled RAM is in the window. -/
theorem Narrow.window_eq (h : c.Narrow) (on : c.ramEnabled = true) : c.window = .cartRam := by
  rw [window, on, h.mapper, h.ramSize]
  rfl

/-- It repeats there. -/
theorem Narrow.place_eq (h : c.Narrow) (i : Nat) :
    c.shownRamBank * 0x2000 + i % c.windowSize = i % 0x200 := by
  rw [shownRamBank, h.mapper, windowSize, h.ramSize, h.ramBank]
  exact Nat.zero_add _

theorem writeControl_narrow (h : c.Narrow) (addr : UInt16) (val : UInt8) :
    (c.writeControl addr val).Narrow := by
  rw [writeControl, h.mapper]
  simp only [writeMbc2]
  split
  · split
    · exact ⟨h.mapper, h.controller, h.clockless, h.ramSize, h.ramBank, h.ram⟩
    · exact ⟨h.mapper, h.controller, h.clockless, h.ramSize, h.ramBank, h.ram⟩
  · exact h

/-- A write to the window, while RAM is enabled. -/
theorem writeRam_narrow (h : c.Narrow) (on : c.ramEnabled = true) (addr : UInt16) (val : UInt8) :
    c.writeRam addr val =
      { c with ram := c.ram.setIfInBounds (addr.toNat % 0x200) ((val &&& 0x0F) ||| 0xF0) } := by
  have cell : (addr &&& 0x01FF).toNat = addr.toNat % 0x200 := and_ones (n := 9) rfl addr
  rw [writeRam, on, h.mapper, ← cell]
  rfl

theorem writeRam_off (off : c.ramEnabled = false) (addr : UInt16) (val : UInt8) :
    c.writeRam addr val = c := by
  rw [writeRam, off]
  rfl

/-- A battery save that is accepted comes before what lies behind the RAM. -/
theorem loadSave_eq (c : Cartridge) (data : Array UInt8) :
    c.after (.load data) =
      if c.hasSave && c.acceptsSize data.size then
        { c with
          ram := data.extract 0 c.ramSize ++ c.ram.extract c.ramSize c.ram.size
          clock := if data.size = c.ramSize + Clock.savedSize then Clock.ofBytes data c.ramSize
            else c.clock }
      else c := by
  rw [after, loadSave]
  cases c.hasSave <;> cases c.acceptsSize data.size <;> rfl

/-- An MBC2 cartridge stays one. -/
theorem after_narrow (h : c.Narrow) (e : Event) : (c.after e).Narrow := by
  cases e with
  | write addr val =>
    change (c.hear addr val).Narrow
    unfold hear
    split
    · exact writeControl_narrow h addr val
    split
    · cases on : c.ramEnabled with
      | true =>
        rw [writeRam_narrow h on]
        exact ⟨h.mapper, h.controller, h.clockless, h.ramSize, h.ramBank, Array.size_setIfInBounds.trans h.ram⟩
      | false =>
        rw [writeRam_off on]
        exact h
    · exact h
  | reset => exact ⟨congrArg Mapper.powerOn h.controller, h.controller, h.clockless, h.ramSize, rfl, h.ram⟩
  | load data =>
    rw [loadSave_eq]
    split
    · rename_i accepted
      have enough := ramSize_le_of_accepted (Bool.and_eq_true_iff.mp accepted).2
      have ram := h.ram
      have size := h.ramSize
      refine ⟨h.mapper, h.controller, h.clockless, h.ramSize, h.ramBank, ?_⟩
      simp only [Array.size_append, Array.size_extract, ram, size, Header.maxRamSize,
        Header.mbc2RamSize] at enough ⊢
      omega
    · exact h

/-- A write changes the cell that it reaches. -/
theorem hear_ramByte (h : c.Narrow) (addr : UInt16) (val : UInt8) {cell : Nat}
    (inside : cell < 0x200) : (c.hear addr val).ramByte cell =
      if c.ramEnabled = true ∧ 0xA000 ≤ addr ∧ addr < 0xC000 ∧ addr.toNat % 0x200 = cell then
        (val &&& 0x0F) ||| 0xF0
      else c.ramByte cell := by
  have small : cell < c.ram.size := by
    rw [h.ram]
    exact inside.trans (by decide)
  unfold hear
  by_cases control : addr < 0x8000
  · rw [if_pos control, if_neg (by grind)]
    exact congrArg (fun c => c.ramByte cell) (c.writeControl_unbanked addr val :)
  rw [if_neg control]
  by_cases window : 0xA000 ≤ addr ∧ addr < 0xC000
  · rw [if_pos window]
    cases on : c.ramEnabled with
    | true =>
      rw [writeRam_narrow h on]
      refine (Bus.getD_set _ _ _ _ _).trans ?_
      simp only [window, small, and_true, true_and]
      rfl
    | false =>
      rw [writeRam_off on, if_neg fun all => Bool.noConfusion all.1]
  · rw [if_neg window, if_neg fun all => window ⟨all.2.1, all.2.2.1⟩]

/-- A battery save that is accepted fills every cell. -/
theorem loadSave_ramByte (h : c.Narrow) (data : Array UInt8) {cell : Nat} (inside : cell < 0x200) :
    (c.after (.load data)).ramByte cell =
      if c.hasSave && c.acceptsSize data.size then data.getD cell 0 else c.ramByte cell := by
  rw [loadSave_eq]
  split
  · rename_i accepted
    have enough := ramSize_le_of_accepted (Bool.and_eq_true_iff.mp accepted).2
    rw [h.ramSize] at enough
    have there : cell < data.size := inside.trans_le enough
    have size : (data.extract 0 c.ramSize).size = 0x200 := by
      rw [h.ramSize, Array.size_extract]
      exact (Nat.sub_zero _).trans (Nat.min_eq_left enough)
    simp only [ramByte, Array.getD_eq_getD_getElem?]
    rw [Array.getElem?_append_left (size ▸ inside), Array.getElem?_eq_getElem (size ▸ inside),
      Array.getElem_extract, Array.getElem?_eq_getElem there]
    simp only [Nat.zero_add, Option.getD_some]
  · rfl

/-- What an event does to a cell. -/
theorem after_ramByte (h : c.Narrow) (e : Event) {cell : Nat} (inside : cell < 0x200) :
    (c.after e).ramByte cell = ((c.stores cell e).map Stored.byte).getD (c.ramByte cell) := by
  cases e with
  | write addr val =>
    refine (hear_ramByte h addr val inside).trans ?_
    simp only [stores]
    split <;> rfl
  | reset => rfl
  | load data =>
    refine (loadSave_ramByte h data inside).trans ?_
    simp only [stores]
    split <;> rfl

/-- **What a cell holds** after any history is the byte of what has been stored there last. -/
theorem afterAll_ramByte (h : c.Narrow) {cell : Nat} (inside : cell < 0x200) {last : Stored}
    (byte : c.ramByte cell = last.byte) (events : List Event) :
    (c.afterAll events).ramByte cell = (lastStored cell c last events).byte := by
  -- what is stored last is a new `last` for the rest, since whether RAM is enabled goes by then
  induction events generalizing c last with
  | nil => exact byte
  | cons e rest ih =>
    refine ih (after_narrow h e) ?_
    rw [after_ramByte h e inside, byte]
    cases c.stores cell e <;> rfl

theorem afterAll_narrow (h : c.Narrow) (events : List Event) : (c.afterAll events).Narrow := by
  induction events generalizing c with
  | nil => exact h
  | cons e rest ih => exact ih (after_narrow h e)

/-- No type of MBC2 cartridge has a clock. -/
theorem clockless_of_type {code : UInt8} {features : Features}
    (typed : Header.ofType? code = some (.mbc2, features)) : features.clock = false := by
  unfold Header.ofType? at typed
  split at typed <;> cases typed <;> rfl

/-- A new MBC2 cartridge. -/
theorem ofHeader_narrow {rom : Rom} {header : Header} (read : Header.read rom = .ok header)
    (mbc2 : header.controller = .mbc2) : (ofHeader header rom).Narrow := by
  have built := ofRom_built (ofRom_of_read read)
  obtain ⟨typed, -, -⟩ := read_ok read
  rw [mbc2] at typed
  refine ⟨?_, mbc2, clockless_of_type typed, built.mbc2 mbc2, rfl, Array.size_replicate⟩
  change Mapper.powerOn header.controller = .mbc2
  rw [mbc2]
  rfl

theorem ofHeader_ramByte (header : Header) (rom : Rom) {cell : Nat} (inside : cell < 0x200) :
    (ofHeader header rom).ramByte cell = Stored.never.byte := by
  have small : cell < Header.maxRamSize := inside.trans (by decide)
  simp only [ramByte, ofHeader, Array.getD_eq_getD_getElem?, Array.getElem?_replicate, if_pos small]
  rfl

end Cartridge

end DotMatrix
