import DotMatrix.Proofs.Bus.Slots
import DotMatrix.Proofs.Cpu.Simulation

/-!
# What lasts in the cartridge

A cartridge that is in use is written to, its banks are selected, it is reset, its RAM and its clock
are filled from outside, and a snapshot replaces it by an earlier state of itself. A property that
all of these keep (`Cartridge.Lasting`) holds of the cartridge of every bus that can be reached, if
it holds of the cartridges of accepted images.

`Cartridge.Built` is such a property: the registers are those of the controller, and the RAM has one
of the sizes there are.

Results:
* `Kept.holds`, `holds_invariant`, `reset_holds`, `restore_holds`: what lasts is kept.
* **`Reachable.holds`**: what lasts, and holds of new cartridges, holds on every bus.
* `built_lasting`, `ofRom_built`: how a cartridge is built.
-/

namespace DotMatrix

/-- A property of cartridges that lasts while they are in use. What RAM and clock hold does not
matter for it. -/
structure Cartridge.Lasting (Q : Cartridge → Prop) : Prop where
  refill : ∀ {c c' : Cartridge}, Q c → c'.blank = c.blank → Q c'
  select : ∀ {c : Cartridge}, Q c → ∀ addr val, Q (c.writeControl addr val)
  reset : ∀ {c : Cartridge}, Q c → Q c.reset
  takeOver : ∀ {live saved : Cartridge}, Q live → Q saved → Q { saved with rom := live.rom }

namespace Bus

/-- The cartridge has the property, if there is one. -/
def Holds (Q : Cartridge → Prop) (b : Bus) : Prop :=
  ∀ c ∈ b.cart, Q c

variable {Q : Cartridge → Prop} {b b' : Bus}

theorem Holds.congr (h : b.Holds Q) (same : b'.cart = b.cart) : b'.Holds Q := by
  intro c inside
  exact h c (same ▸ inside)

theorem Holds.map (h : b.Holds Q) {f : Cartridge → Cartridge} (keep : ∀ {c}, Q c → Q (f c))
    (same : b'.cart = b.cart.map f) : b'.Holds Q := by
  intro c' inside
  rw [same] at inside
  obtain ⟨c, old, rfl⟩ := Option.mem_map.mp inside
  exact keep (h c old)

section Law

variable (law : Cartridge.Lasting Q)
include law

/-- Other contents of the cartridge do not matter. -/
theorem Holds.refill (h : b.Holds Q)
    (same : b'.cart.map Cartridge.blank = b.cart.map Cartridge.blank) : b'.Holds Q := by
  intro c' inside
  have there : c'.blank ∈ b.cart.map Cartridge.blank := same ▸ Option.mem_map_of_mem _ inside
  obtain ⟨c, old, blank⟩ := Option.mem_map.mp there
  exact law.refill (h c old) blank.symm

/-- Nothing that happens to the layout of a bus matters either. -/
theorem Kept.holds (kept : b.Kept b') (h : b.Holds Q) : b'.Holds Q := by
  cases kept with
  | same layout => exact h.refill law (congrArg Layout.cart layout)
  | @selected b0 model cart wram video sound =>
    have remapped : b0.remap.cart = b0.cart := by
      unfold remap
      rfl
    rcases cart with same | ⟨addr, val, written⟩
    · exact h.congr (remapped.trans same)
    · exact h.map (fun made => law.select made addr val) (remapped.trans written)

theorem holds_invariant : Invariant (Holds Q) where
  write h addr val := (write_kept _ addr val).holds law h
  acknowledge h _ := h.congr rfl
  spoilOam h := h.congr rfl
  switchSpeed h := h.refill law (congrArg Layout.cart (switchSpeed_layout _))
  report h _ := h.congr rfl
  takeStall h := h.congr rfl
  step h cycles := h.refill law (congrArg Layout.cart (step_layout _ cycles))

theorem reset_holds (h : b.Holds Q) (model : Model) : (b.reset model).Holds Q :=
  h.map law.reset rfl

/-- The cartridge that comes out of a snapshot is the saved one with the ROM of the live one. -/
theorem restore_holds {live saved core : Core} (h : live.bus.Holds Q) (hs : saved.bus.Holds Q)
    (fits : saved.bus.Fits)
    (restored : Snapshot.restore live (Snapshot.encode saved) = .ok core) : core.bus.Holds Q := by
  obtain ⟨bus, joined, rfl⟩ := Snapshot.restore_ok fits restored
  obtain ⟨-, -, cart, joinedCart, rfl⟩ := Snapshot.joinBus_ok joined
  rcases Snapshot.joinCartridge_ok joinedCart with ⟨-, -, rfl⟩ | ⟨l, s, inside, there, -, rfl⟩
  · rintro c ⟨⟩
  · rintro c ⟨⟩
    obtain ⟨old, saved, rfl⟩ := Option.map_eq_some_iff.mp there
    exact @law.takeOver l old (h l inside) (hs old saved)

/-- **What lasts** and holds of new cartridges holds on every bus that can be reached. -/
theorem Reachable.holds (made : ∀ {rom c}, Cartridge.ofRom rom = .ok c → Q c) (h : b.Reachable) :
    b.Holds Q := by
  induction h with
  | new model =>
    rintro c ⟨⟩
  | write addr val _ ih => exact (holds_invariant law).write ih addr val
  | insert _ accepted _ =>
    rintro c ⟨⟩
    exact made accepted
  | reset model _ ih => exact reset_holds law ih model
  | step cycles _ ih => exact (holds_invariant law).step ih cycles
  | switchSpeed _ ih => exact (holds_invariant law).switchSpeed ih
  | @restore b saved cpu savedCpu m _ _ fits restored ih ihSaved =>
    exact @restore_holds Q law ⟨cpu, b⟩ ⟨savedCpu, saved⟩ m ih ihSaved fits restored

end Law

end Bus

/-! ## How a cartridge is built -/

/-- The controller that has these registers. -/
def Mapper.controller : Mapper → Controller
  | .plain => .plain
  | .mbc1 _ _ _ => .mbc1
  | .mbc2 => .mbc2
  | .mbc3 _ _ => .mbc3
  | .mbc5 => .mbc5

namespace Cartridge

/-- The registers are those of the controller, the RAM has one of the sizes there are, and the RAM
of an MBC2 controller its own. -/
structure Built (c : Cartridge) : Prop where
  kind : c.mapper.controller = c.controller
  ramSize : c.ramSize ∈ [0, 0x200, 0x800, 0x2000, 0x8000, 0x10000]
  mbc2 : c.controller = .mbc2 → c.ramSize = Header.mbc2RamSize

theorem powerOn_controller (controller : Controller) :
    (Mapper.powerOn controller).controller = controller := by
  cases controller <;> rfl

/-- A control write may change the registers, but not what registers there are. -/
theorem writeControl_mapper (c : Cartridge) (addr : UInt16) (val : UInt8) :
    (c.writeControl addr val).mapper.controller = c.mapper.controller := by
  cases here : c.mapper with
  | plain => simp only [writeControl, here]
  | mbc1 low high mode =>
    simp only [writeControl, here, writeMbc1]
    repeat' split
    all_goals simp only [here, Mapper.controller]
  | mbc2 =>
    simp only [writeControl, here, writeMbc2]
    repeat' split
    all_goals simp only [here]
  | mbc3 mapped register =>
    simp only [writeControl, here, writeMbc3]
    repeat' split
    all_goals simp only [here, Mapper.controller]
  | mbc5 =>
    simp only [writeControl, here, writeMbc5]
    repeat' split
    all_goals simp only [here]

theorem Built.congr {c c' : Cartridge} (h : c.Built)
    (mapper : c'.mapper.controller = c.mapper.controller) (controller : c'.controller = c.controller)
    (ramSize : c'.ramSize = c.ramSize) : c'.Built := by
  refine ⟨mapper.trans (h.kind.trans controller.symm), ?_, ?_⟩
  · rw [ramSize]
    exact h.ramSize
  · rw [controller, ramSize]
    exact h.mbc2

theorem ofRom_built {rom : Rom} {c : Cartridge} (accepted : ofRom rom = .ok c) : c.Built := by
  cases hr : Header.read rom with
  | error fault =>
    rw [ofRom, hr] at accepted
    cases accepted
  | ok header =>
    rw [ofRom_of_read hr] at accepted
    cases accepted
    obtain ⟨-, -, sized⟩ := read_ok hr
    refine ⟨powerOn_controller header.controller, readRamSize_ok sized, fun mbc2 => ?_⟩
    have mbc2 : header.controller = .mbc2 := mbc2
    rw [Header.readRamSize, if_pos mbc2] at sized
    exact (Except.ok.inj sized).symm

theorem built_lasting : Lasting Built where
  refill h same :=
    h.congr (congrArg (fun c => c.mapper.controller) same :)
      (congrArg Cartridge.controller same :) (congrArg Cartridge.ramSize same :)
  select {c} h addr val :=
    have same := c.writeControl_unbanked addr val
    h.congr (c.writeControl_mapper addr val) (congrArg Cartridge.controller same :)
      (congrArg Cartridge.ramSize same :)
  reset h := ⟨powerOn_controller _, h.ramSize, h.mbc2⟩
  takeOver _ h := ⟨h.kind, h.ramSize, h.mbc2⟩

end Cartridge

end DotMatrix
