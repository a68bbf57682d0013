import DotMatrix.Proofs.Cartridge.Nibbles
import DotMatrix.Proofs.Console.Inserted

/-!
# The RAM of an MBC2 cartridge in a machine

A cartridge hears of what is written to the bus and of nothing else that the processor does
(`Bus.Ran`). So what actions do to the cartridge of a console is told by the writes that were made
meanwhile, by resets and by battery saves (`Console.Told`). There is such an account of every list
of actions, and by any of them the cartridge is the one that heard of these events.

Results:
* `Bus.write_cart`: a write, and what the cartridge hears of it.
* `Bus.Ran.cart`, `Core.turn_ran`, `Core.run_ran`: runs of the processor.
* `act_cart`, `Told.cart`, `told`: what actions do to the cartridge.
* **`nibbles_iff`**: what is read of the RAM of an MBC2 cartridge.
* `nibbles_empty`: at power-on the upper halves are zero.
-/

namespace DotMatrix

open Cartridge (Event Narrow lastStored)

namespace Bus

/-! ## Writes -/

section Writes

variable (b : Bus) (addr : UInt16) (val : UInt8)

theorem writeTimer_cart : (b.writeTimer addr val).cart = b.cart :=
  congrArg (fun held => held.2.1) (afterTimer_held b _)

theorem writeTransfer_cart : (b.writeTransfer val).cart = b.cart := by
  obtain ⟨stall, notices, vram, transfer, -, filled⟩ := writeTransfer_fills b val
  rw [filled]

theorem fillObjects_cart : (b.fillObjects val).cart = b.cart := by
  simp only [fillObjects]

theorem writeLcdc_cart : (b.writeLcdc val).cart = b.cart := by
  unfold writeLcdc
  split <;> rfl

theorem writeColourIo_cart : (b.writeColourIo addr val).cart = b.cart := by
  unfold writeColourIo
  split
  · rfl
  split
  · rfl
  split
  · rfl
  split
  · exact writeTransfer_cart b val
  split
  · rfl
  split
  · rfl
  split <;> rfl

/-- The registers are not the cartridge's. -/
theorem writeIo_cart : (b.writeIo addr val).cart = b.cart := by
  unfold writeIo
  split
  · rfl
  split
  · rfl
  split
  · exact writeTimer_cart b addr val
  split
  · rfl
  split
  · rfl
  split
  · exact writeLcdc_cart b val
  split
  · exact fillObjects_cart b val
  split
  · rfl
  split
  · exact writeColourIo_cart b addr val
  · rfl

/-- The cartridge hears of a write. -/
theorem write_cart : (b.write addr val).cart = b.cart.map fun c => c.hear addr val := by
  have deaf {b' : Bus} (high : ¬ addr < 0x8000) (outside : addr < 0xA000 ∨ 0xC000 ≤ addr)
      (same : b'.cart = b.cart) : b'.cart = b.cart.map fun c => c.hear addr val := by
    have apart : ¬ (0xA000 ≤ addr ∧ addr < 0xC000) := by grind
    simp only [same, Cartridge.hear, if_neg high, if_neg apart, Option.map_id']
  unfold write
  split
  · rename_i control
    simp only [writeControl, Cartridge.hear, if_pos control]
    cases inside : b.cart with
    | none => exact inside
    | some c => rfl
  rename_i high
  split
  · rename_i vram
    refine deaf high (.inl vram) ?_
    unfold writeVram
    split <;> rfl
  rename_i low
  split
  · rename_i window
    have here : 0xA000 ≤ addr ∧ addr < 0xC000 := ⟨UInt16.not_lt.mp low, window⟩
    simp only [writeCartRam, Cartridge.hear, if_neg high, if_pos here]
  rename_i above
  have outside : addr < 0xA000 ∨ 0xC000 ≤ addr := .inr (UInt16.not_lt.mp above)
  split
  · exact deaf high outside rfl
  split
  · refine deaf high outside ?_
    unfold writeOam
    split <;> rfl
  split
  · exact deaf high outside rfl
  split
  · exact deaf high outside (writeIo_cart b addr val)
  split
  · exact deaf high outside rfl
  · exact deaf high outside rfl

end Writes

theorem switchSpeed_cart (b : Bus) : b.switchSpeed.cart = b.cart := by
  unfold switchSpeed
  exact congrArg (fun held => held.2.1) (afterTimer_held _ _)

/-! ## Runs -/

/-- What a processor may do to a bus in a run, with the writes that the cartridge hears of. -/
inductive Ran (b : Bus) : List Event → Bus → Prop where
  | start : Ran b [] b
  | write {b' : Bus} {events : List Event} (addr : UInt16) (val : UInt8) :
      Ran b events b' → Ran b (events ++ [.write addr val]) (b'.write addr val)
  | acknowledge {b' : Bus} {events : List Event} (requests : UInt8) :
      Ran b events b' → Ran b events { b' with requests := requests }
  | spoilOam {b' : Bus} {events : List Event} :
      Ran b events b' → Ran b events { b' with video := b'.video.spoilOam }
  | switchSpeed {b' : Bus} {events : List Event} : Ran b events b' → Ran b events b'.switchSpeed
  | report {b' : Bus} {events : List Event} (notice : Notice) :
      Ran b events b' → Ran b events (b'.report notice)
  | takeStall {b' : Bus} {events : List Event} : Ran b events b' → Ran b events b'.takeStall
  | step {b' : Bus} {events : List Event} (cycles : Nat) :
      Ran b events b' → Ran b events (b'.step cycles)

variable {b b' : Bus} {events : List Event}

/-- The cartridge is the one that heard of the writes. -/
theorem Ran.cart (ran : b.Ran events b') :
    b'.cart = b.cart.map fun c => c.afterAll events := by
  induction ran with
  | start => exact Option.map_id'.symm
  | @write b' events addr val _ ih =>
    rw [write_cart, ih, Option.map_map]
    refine congrArg (Option.map · b.cart) (funext fun c => ?_)
    exact (c.afterAll_append events [.write addr val]).symm
  | acknowledge _ _ ih | spoilOam _ ih | report _ _ ih | takeStall _ ih => exact ih
  | switchSpeed _ ih => exact (switchSpeed_cart _).trans ih
  | @step b' _ cycles _ ih => exact (congrArg (fun held => held.2.1) (step_held b' cycles)).trans ih

/-- Whatever the processor does can be told. -/
theorem ran_invariant (b : Bus) : Invariant fun b' => ∃ events, b.Ran events b' where
  write := fun ⟨_, ran⟩ addr val => ⟨_, ran.write addr val⟩
  acknowledge := fun ⟨_, ran⟩ requests => ⟨_, ran.acknowledge requests⟩
  spoilOam := fun ⟨_, ran⟩ => ⟨_, ran.spoilOam⟩
  switchSpeed := fun ⟨_, ran⟩ => ⟨_, ran.switchSpeed⟩
  report := fun ⟨_, ran⟩ notice => ⟨_, ran.report notice⟩
  takeStall := fun ⟨_, ran⟩ => ⟨_, ran.takeStall⟩
  step := fun ⟨_, ran⟩ cycles => ⟨_, ran.step cycles⟩

end Bus

theorem Core.turn_ran (m : Core) : ∃ events, m.bus.Ran events m.turn.1.bus :=
  turn_keeps (Bus.ran_invariant m.bus) ⟨[], .start⟩

theorem Core.run_ran (m : Core) (cycles : Nat) : ∃ events, m.bus.Ran events (m.run cycles).1.bus :=
  run_keeps (Bus.ran_invariant m.bus) ⟨[], .start⟩ cycles

namespace Console

/-! ## Actions -/

/-- What the cartridge may have heard of in an action. -/
def Tells (c : Console) (events : List Event) : Action → Prop
  | .turn => c.core.bus.Ran events c.core.turn.1.bus
  | .run cycles => c.core.bus.Ran events (c.core.run cycles).1.bus
  | .frame => c.core.bus.Ran events (c.core.run cyclesPerFrame).1.bus
  | .reset => events = [.reset]
  | .loadSave data => events = [.load data]
  | .write addr val => events = [.write addr val]
  | .setButtons _ _ | .setClock _ => events = []

/-- What the cartridge may have heard of in some actions. -/
inductive Told : Console → List Action → List Event → Prop where
  | none {c : Console} : Told c [] []
  | more {c : Console} {a : Action} {actions : List Action} {events rest : List Event} :
      c.Tells events a → Told (c.act a) actions rest → Told c (a :: actions) (events ++ rest)

variable {c : Console} {events : List Event}

theorem tells (c : Console) (a : Action) : ∃ events, c.Tells events a := by
  cases a with
  | turn => exact c.core.turn_ran
  | run cycles => exact c.core.run_ran cycles
  | frame => exact c.core.run_ran cyclesPerFrame
  | _ => exact ⟨_, rfl⟩

/-- There is an account of every list of actions. -/
theorem told (c : Console) (actions : List Action) : ∃ events, c.Told actions events := by
  induction actions generalizing c with
  | nil => exact ⟨[], .none⟩
  | cons a rest ih =>
    obtain ⟨_, first⟩ := c.tells a
    obtain ⟨_, rest⟩ := ih (c.act a)
    exact ⟨_, .more first rest⟩

theorem loadSave_heard {cart : Cartridge} (inside : c.cart = some cart) (data : Array UInt8) :
    (c.act (.loadSave data)).cart = some (cart.after (.load data)) := by
  simp only [act, loadSave, inside, Cartridge.after]
  cases cart.loadSave data with
  | error fault => exact inside
  | ok taken =>
    simp only [bind, Except.bind, pure, Except.pure]
    split <;> rfl

/-- A cartridge without a clock is the one that heard of what has happened. -/
theorem act_cart {cart : Cartridge} (inside : c.cart = some cart)
    (clockless : ∀ events, (cart.afterAll events).features.clock = false) {a : Action}
    (tells : c.Tells events a) : (c.act a).cart = some (cart.afterAll events) := by
  have there : c.core.bus.cart = some cart := inside
  cases a with
  | turn | run cycles => exact (Bus.Ran.cart tells).trans (congrArg _ there)
  | frame =>
    have ran : (c.core.run cyclesPerFrame).1.bus.cart = some (cart.afterAll events) :=
      (Bus.Ran.cart tells).trans (congrArg _ there)
    have still : (cart.afterAll events).tickClock = cart.afterAll events := by
      rw [Cartridge.tickClock, clockless]
      rfl
    simp only [act, runFrame, countFrame]
    split
    · refine (congrArg (Option.map Cartridge.tickClock) ran).trans ?_
      exact congrArg some still
    · exact ran
  | reset =>
    obtain rfl := tells
    exact congrArg (Option.map Cartridge.reset) there
  | loadSave data =>
    obtain rfl := tells
    exact loadSave_heard inside data
  | write addr val =>
    obtain rfl := tells
    exact (c.core.bus.write_cart addr val).trans (congrArg _ there)
  | setButtons mask down =>
    obtain rfl := tells
    exact inside
  | setClock clock =>
    obtain rfl := tells
    have refused : c.setClock clock = .error .noClock := by
      have none : cart.features.clock = false := clockless []
      simp only [setClock, inside, none]
      rfl
    rw [act, refused]
    exact inside

/-- Along any account of some actions. -/
theorem Told.cart {cart : Cartridge} {actions : List Action} (told : c.Told actions events)
    (inside : c.cart = some cart) (h : cart.Narrow) :
    (c.perform actions).cart = some (cart.afterAll events) := by
  induction told generalizing cart with
  | none => exact inside
  | @more c a actions events rest tells _ ih =>
    have acted := act_cart inside (fun events => (Cartridge.afterAll_narrow h events).clockless) tells
    rw [Cartridge.afterAll_append]
    exact ih acted (Cartridge.afterAll_narrow h events)

/-! ## Reading -/

/-- What is read in the window, while the RAM of an MBC2 cartridge is enabled. -/
theorem read_narrow {b : Bus} (mapped : b.Mapped) (built : b.Holds Cartridge.Built)
    {cart : Cartridge} (inside : b.cart = some cart) (h : cart.Narrow) (on : cart.ramEnabled = true)
    {addr : UInt16} (low : 0xA000 ≤ addr) (high : addr < 0xC000) :
    b.read addr = cart.ramByte (addr.toNat % 0x200) := by
  rw [b.read_look (by grind), Bus.cellAt_cartRam mapped built inside (h.window_eq on) low high,
    h.place_eq]
  simp only [Bus.look, inside, Option.elim_some]

/-- The cartridge of an accepted image, when it has been started. -/
theorem load_cart {c' : Console} {rom : Rom} {header : Header} (loaded : c.load rom = .ok c')
    (read : Header.read rom = .ok header) :
    c'.cart = some (Cartridge.ofHeader header rom).reset ∧ c'.Consistent ∧
      c'.core.bus.Holds Cartridge.Built := by
  obtain ⟨header', model, read', rfl⟩ := load_ok loaded
  obtain rfl := Except.ok.inj (read.symm.trans read')
  have accepted := Cartridge.ofRom_of_read read
  exact ⟨rfl, load_consistent loaded,
    start_holds Cartridge.built_lasting c (Cartridge.ofRom_built accepted) header model⟩

/-- After any actions since an MBC2 cartridge was put in, and by any account of them, a read in the
window, while RAM is enabled, is the same at the mirrors, and its lower half is that of what has been
stored there last. Its upper half is all ones exactly if that was written on the bus, or comes with
such an upper half from a battery save. -/
theorem nibbles_iff {g : Console} {rom : Rom} {header : Header} (loaded : g.load rom = .ok c)
    (read : Header.read rom = .ok header) (mbc2 : header.controller = .mbc2)
    (actions : List Action) :
    (∃ events, c.Told actions events) ∧
    ∃ fresh, c.cart = some fresh ∧ ∀ events, c.Told actions events →
      ∃ cart, (c.perform actions).cart = some cart ∧
        (cart.ramEnabled = true → ∀ addr, 0xA000 ≤ addr → addr < 0xC000 →
          let b := (c.perform actions).core.bus
          let last := lastStored (addr.toNat % 0x200) fresh .never events
          b.read addr = b.read (0xA000 + addr % 0x200) ∧
          b.read addr &&& 0x0F = last.value &&& 0x0F ∧
          (b.read addr &&& 0xF0 = 0xF0 ↔ last.Full)) := by
  obtain ⟨inserted, consistent, built⟩ := load_cart loaded read
  have fresh : (Cartridge.ofHeader header rom).reset.Narrow :=
    Cartridge.after_narrow (Cartridge.ofHeader_narrow read mbc2) .reset
  refine ⟨c.told actions, _, inserted, fun events told => ?_⟩
  have inside := told.cart inserted fresh
  refine ⟨_, inside, fun on addr low high => ?_⟩
  have mapped := (perform_consistent consistent actions).1.mapped
  have built := perform_holds Cartridge.built_lasting consistent built actions
  have narrow := Cartridge.afterAll_narrow fresh events
  have reads {addr : UInt16} (low : 0xA000 ≤ addr) (high : addr < 0xC000) :=
    read_narrow mapped built inside narrow on low high
  have small : addr.toNat % 0x200 < 0x200 := Nat.mod_lt _ (by decide)
  have mirror : (0xA000 + addr % 0x200).toNat % 0x200 = addr.toNat % 0x200 := by
    rw [UInt16.toNat_add, UInt16.toNat_mod]
    change (40960 + addr.toNat % 512) % 65536 % 512 = addr.toNat % 512
    omega
  have again : 0xA000 ≤ 0xA000 + addr % 0x200 ∧ 0xA000 + addr % 0x200 < 0xC000 := by
    constructor <;> grind
  have byte := Cartridge.afterAll_ramByte fresh small
    (Cartridge.ofHeader_ramByte header rom small) events
  simp only [reads low high, reads again.1 again.2, mirror, byte]
  exact ⟨trivial, Cartridge.Stored.low _, Cartridge.Stored.high _⟩

/-! ## A cartridge with a battery -/

/-- The header of an MBC2 cartridge with a battery. -/
def narrowHeader : Header :=
  Cartridge.codedHeader 6 0 0 .mbc2 { ram := true, battery := true } Header.mbc2RamSize

theorem narrowHeader_read : Header.read (Cartridge.coded 6 0 0) = .ok narrowHeader :=
  Cartridge.coded_read (by decide) rfl rfl

/-- The console that has just started it. -/
def narrow : Console :=
  (Console.new {}).start narrowHeader (Cartridge.ofHeader narrowHeader (Cartridge.coded 6 0 0)) .dmg

theorem narrow_loaded : (Console.new {}).load (Cartridge.coded 6 0 0) = .ok narrow := by
  rw [load, narrowHeader_read]
  rfl

theorem tells_write (c : Console) (addr : UInt16) (val : UInt8) :
    c.Tells [.write addr val] (.write addr val) := rfl

theorem tells_loadSave (c : Console) (data : Array UInt8) :
    c.Tells [.load data] (.loadSave data) := rfl

/-- RAM is enabled and written to, a battery save is taken up, and RAM is written to again. -/
def refilling : List Action :=
  [.write 0x0000 0x0A, .write 0xA1FF 0x35, .loadSave (Array.replicate 0x200 0x5C),
    .write 0xA203 0x79]

/-- What the cartridge hears of that. -/
def refilled : List Event :=
  [.write 0x0000 0x0A, .write 0xA1FF 0x35, .load (Array.replicate 0x200 0x5C), .write 0xA203 0x79]

theorem refilling_told : narrow.Told refilling refilled :=
  .more (tells_write _ 0x0000 0x0A) (.more (tells_write _ 0xA1FF 0x35)
    (.more (tells_loadSave _ (Array.replicate 0x200 0x5C))
      (.more (tells_write _ 0xA203 0x79) .none)))

/-- The byte that was written has an upper half of ones, and the one from the save its own. -/
theorem nibbles_iff_refilled :
    (Console.new {}).load (Cartridge.coded 6 0 0) = .ok narrow ∧
      Header.read (Cartridge.coded 6 0 0) = .ok narrowHeader ∧ narrowHeader.controller = .mbc2 ∧
      let b := (narrow.perform refilling).core.bus
      b.read 0xB803 &&& 0x0F = 0x09 ∧ b.read 0xB803 &&& 0xF0 = 0xF0 ∧
        b.read 0xA1FF &&& 0x0F = 0x0C ∧ b.read 0xA1FF &&& 0xF0 ≠ 0xF0 := by
  refine ⟨narrow_loaded, narrowHeader_read, rfl, ?_⟩
  let fresh := (Cartridge.ofHeader narrowHeader (Cartridge.coded 6 0 0)).reset
  have started : narrow.cart = some fresh := rfl
  have inside : (narrow.perform refilling).cart = some (fresh.afterAll refilled) :=
    refilling_told.cart started
      (Cartridge.after_narrow (Cartridge.ofHeader_narrow narrowHeader_read rfl) .reset)
  obtain ⟨-, _, inserted, reads⟩ := nibbles_iff narrow_loaded narrowHeader_read rfl refilling
  obtain rfl := Option.some.inj (started.symm.trans inserted)
  obtain ⟨_, there, reads⟩ := reads refilled refilling_told
  obtain rfl := Option.some.inj (inside.symm.trans there)
  have on : (fresh.afterAll refilled).ramEnabled = true := by decide +kernel
  have written : lastStored (UInt16.toNat 0xB803 % 0x200) fresh .never refilled = .written 0x79 := by
    decide +kernel
  have saved : lastStored (UInt16.toNat 0xA1FF % 0x200) fresh .never refilled = .saved 0x5C := by
    decide +kernel
  obtain ⟨-, low, high⟩ := reads on 0xB803 (by decide) (by decide)
  obtain ⟨-, low', high'⟩ := reads on 0xA1FF (by decide) (by decide)
  simp only [fresh] at written saved
  rw [written] at low high
  rw [saved] at low' high'
  exact ⟨low, high.mpr trivial, low', fun full => absurd (high'.mp full) (by decide)⟩

/-- At power-on the upper halves are not ones. -/
theorem nibbles_empty :
    ∃ c cart, (Console.new {}).load (Cartridge.coded 6 0 0) = .ok c ∧
      let b := (c.act (.write 0x0000 0x0A)).core.bus
      b.cart = some cart ∧ cart.controller = .mbc2 ∧ cart.ramEnabled = true ∧
        b.read 0xA000 = 0x00 := by
  obtain ⟨inserted, consistent, built⟩ := load_cart narrow_loaded narrowHeader_read
  have fresh := Cartridge.after_narrow (Cartridge.ofHeader_narrow narrowHeader_read rfl) .reset
  have inside := act_cart inserted
    (fun events => (Cartridge.afterAll_narrow fresh events).clockless)
    (tells_write narrow 0x0000 0x0A)
  have still := Cartridge.afterAll_narrow fresh [.write 0x0000 0x0A]
  refine ⟨_, _, narrow_loaded, inside, still.controller, rfl, ?_⟩
  rw [read_narrow (act_consistent consistent _).1.mapped
    (act_holds Cartridge.built_lasting consistent built _) inside still rfl (by decide) (by decide)]
  exact Cartridge.ofHeader_ramByte narrowHeader (Cartridge.coded 6 0 0) (by decide)

end Console

end DotMatrix
