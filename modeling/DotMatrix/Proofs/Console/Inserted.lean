import DotMatrix.Proofs.Bus.Inserted
import DotMatrix.Proofs.Console.Reachable

/-!
# What lasts in the cartridge of a console

What a console does to its cartridge beyond the bus is to fill it and to reset it, so what lasts in a
cartridge on the bus lasts in a console.

Results:
* `act_holds`, `perform_holds`, `loadState_holds`: actions and snapshots keep it.
* **`Reachable.holds`**: what lasts, and holds of new cartridges, holds in every console.
-/

namespace DotMatrix

namespace Console

variable {Q : Cartridge → Prop} (law : Cartridge.Lasting Q) {c c' : Console}
include law

theorem start_holds (c : Console) {cart : Cartridge} (made : Q cart) (header : Header)
    (model : Model) : (c.start header cart model).core.bus.Holds Q := by
  rintro inserted ⟨⟩
  exact law.reset made

theorem reset_holds (holds : c.core.bus.Holds Q) : c.reset.core.bus.Holds Q :=
  holds.map law.reset rfl

theorem countFrame_holds (holds : c.core.bus.Holds Q) : c.countFrame.core.bus.Holds Q := by
  have blanks (cart : Cartridge) : cart.tickClock.blank = cart.blank := by
    unfold Cartridge.tickClock
    split <;> rfl
  simp only [countFrame]
  split
  · exact holds.map (fun made => law.refill made (blanks _)) rfl
  · exact holds

theorem loadSave_holds (h : c.Consistent) (holds : c.core.bus.Holds Q) {data : Array UInt8}
    (loaded : c.loadSave data = .ok c') : c'.core.bus.Holds Q := by
  obtain ⟨cart, taken, inside, read, rfl⟩ := loadSave_ok loaded
  have filled : Q taken := law.refill (holds cart inside)
    (loadSave_blank (h.mapped.cart cart inside) read)
  have inserted : (c.withCart taken).core.bus.Holds Q := by
    rintro _ ⟨⟩
    exact filled
  split
  · exact inserted.congr rfl
  · exact inserted

theorem setClock_holds (holds : c.core.bus.Holds Q) {clock : Clock}
    (set : c.setClock clock = .ok c') : c'.core.bus.Holds Q := by
  obtain ⟨cart, inside, rfl⟩ := setClock_ok set
  rintro _ ⟨⟩
  exact law.refill (holds cart inside) rfl

/-- Every action keeps what lasts in the cartridge. -/
theorem act_holds (h : c.Consistent) (holds : c.core.bus.Holds Q) (a : Action) :
    (c.act a).core.bus.Holds Q := by
  have inv := Bus.holds_invariant law
  cases a with
  | turn => exact Core.turn_keeps inv holds
  | run cycles => exact Core.run_keeps inv holds cycles
  | frame =>
    have ran : (c.run cyclesPerFrame).1.core.bus.Holds Q :=
      Core.run_keeps inv holds cyclesPerFrame
    exact countFrame_holds law ran
  | reset => exact reset_holds law holds
  | setButtons mask down => exact holds.congr rfl
  | loadSave data =>
    exact refused_or (P := fun c => c.core.bus.Holds Q) holds fun c' loaded =>
      loadSave_holds law h holds loaded
  | setClock clock =>
    exact refused_or (P := fun c => c.core.bus.Holds Q) holds fun c' set =>
      setClock_holds law holds set
  | write addr val => exact inv.write holds addr val

theorem perform_holds (h : c.Consistent) (holds : c.core.bus.Holds Q) (actions : List Action) :
    (c.perform actions).core.bus.Holds Q := by
  induction actions generalizing c with
  | nil => exact holds
  | cons a rest ih => exact ih (act_consistent h a).1 (act_holds law h holds a)

theorem loadState_holds {saved : Console} (holds : c.core.bus.Holds Q)
    (hs : saved.core.bus.Holds Q) (fits : saved.core.bus.Fits)
    (loaded : c.loadState saved.saveState = .ok c') : c'.core.bus.Holds Q := by
  obtain ⟨core, restored, rfl⟩ := loadState_ok loaded
  exact (Bus.restore_holds law holds hs fits restored).congr rfl

/-- **What lasts** and holds of new cartridges holds in every console that can be reached. -/
theorem Reachable.holds (made : ∀ {rom cart}, Cartridge.ofRom rom = .ok cart → Q cart)
    (h : c.Reachable) : c.core.bus.Holds Q := by
  induction h with
  | new settings =>
    rintro cart ⟨⟩
  | load _ loaded _ =>
    obtain ⟨header, model, read, rfl⟩ := load_ok loaded
    exact start_holds law _ (made (Cartridge.ofRom_of_read read)) header model
  | act a reached ih => exact act_holds law reached.consistent ih a
  | setRegister _ _ _ ih | setPalette _ _ ih | setLayers _ _ ih | setRecorder _ _ _ ih
  | setSampleRate _ _ ih | takeSamples _ ih | attend _ _ _ _ _ _ _ ih => exact ih.congr rfl
  | loadState _ _ fits loaded ih ihSaved => exact loadState_holds law ih ihSaved fits loaded

end Console

end DotMatrix
