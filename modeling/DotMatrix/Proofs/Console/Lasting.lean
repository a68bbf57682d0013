import DotMatrix.Proofs.Console.Reachable

/-!
# What lasts in a console

Much that happens to the bus of a console leaves its board alone: the host sets devices and plugs
cables, the cartridge is exchanged or its clock ticks, notices are given. So a property of the board
that power-up gives, and that time, writes, buttons and snapshots keep, holds of the bus of every
console that can be reached (`Bus.Lasting`).

Results:
* `act_lasting`: actions keep the property.
* **`Reachable.lasting`**: every console that can be reached has it.
-/

namespace DotMatrix

namespace Bus

/-- What is left of a bus without the cartridge, the sound unit, and what the host brings. -/
def board (b : Bus) : Bus :=
  { b with
    cart := none
    sound := Sound.unpowered false
    link := { b.link with cable := none }
    video := { b.video with
      palette := default, layers := default, screen := none, tint := none, cache := default }
    hooks := {}
    notices := #[] }

/-- A property of the board that power-up gives and that lasts while the machine runs. -/
structure Lasting (P : Bus → Prop) : Prop where
  reset : ∀ (b : Bus) (model : Model), P (b.reset model)
  aside : ∀ {b b'}, P b → b'.board = b.board → P b'
  turn : ∀ {m : Core}, P m.bus → P m.turn.1.bus
  setButtons : ∀ {b}, P b → ∀ mask down, P (b.setButtons mask down)
  write : ∀ {b}, P b → ∀ addr val, P (b.write addr val)
  restore : ∀ {live saved core : Core}, P saved.bus → saved.bus.Fits →
    Snapshot.restore live (Snapshot.encode saved) = .ok core → P core.bus

end Bus

namespace Console

variable {P : Bus → Prop} (law : Bus.Lasting P) {c c' : Console}
include law

theorem run_lasting (h : P c.core.bus) (cycles : Nat) : P (c.run cycles).1.core.bus := by
  have runs (m : Core) (goal elapsed : Nat) (h : P m.bus) : P (m.runFrom goal elapsed).1.bus := by
    fun_induction Core.runFrom m goal elapsed with
    | case1 m elapsed more next ih => exact ih (law.turn h)
    | case2 m elapsed done => exact h
  exact runs c.core cycles 0 h

theorem applySettings_lasting (h : P c.core.bus) : P c.applySettings.core.bus := by
  rw [applySettings_bus]
  exact law.aside h rfl

theorem resetTo_lasting (c : Console) (model : Model) : P (c.resetTo model).core.bus := by
  let b : Bus := c.core.bus.reset model
  exact @applySettings_lasting P law { c with core := ⟨Cpu.boot model, b⟩ } (law.reset _ model)

theorem countFrame_lasting (h : P c.core.bus) : P c.countFrame.core.bus := by
  simp only [countFrame]
  split
  · exact law.aside h rfl
  · exact h

theorem loadSave_lasting (h : P c.core.bus) {data : Array UInt8}
    (loaded : c.loadSave data = .ok c') : P c'.core.bus := by
  obtain ⟨cart, taken, -, -, rfl⟩ := loadSave_ok loaded
  split <;> exact law.aside h rfl

theorem setClock_lasting (h : P c.core.bus) {clock : Clock} (set : c.setClock clock = .ok c') :
    P c'.core.bus := by
  obtain ⟨cart, -, rfl⟩ := setClock_ok set
  exact law.aside h rfl

/-- Every action keeps a lasting property. -/
theorem act_lasting (h : P c.core.bus) (a : Action) : P (c.act a).core.bus := by
  cases a with
  | turn => exact law.turn h
  | run cycles => exact run_lasting law h cycles
  | frame => exact countFrame_lasting law (run_lasting law h cyclesPerFrame)
  | reset => exact resetTo_lasting law c c.model
  | setButtons mask down => exact law.setButtons h mask down
  | loadSave data =>
    exact refused_or (P := fun c => P c.core.bus) h fun c' loaded => loadSave_lasting law h loaded
  | setClock clock =>
    exact refused_or (P := fun c => P c.core.bus) h fun c' set => setClock_lasting law h set
  | write addr val => exact law.write h addr val

/-- **What lasts** holds of the bus of every console that can be reached. -/
theorem Reachable.lasting (h : c.Reachable) : P c.core.bus := by
  induction h with
  | new settings => exact applySettings_lasting law (law.reset _ _)
  | load _ loaded _ =>
    obtain ⟨header, model, -, rfl⟩ := load_ok loaded
    exact resetTo_lasting law _ model
  | act a _ ih => exact act_lasting law ih a
  | setRegister name w _ ih => exact ih
  | setPalette palette _ ih => exact law.aside ih rfl
  | setLayers layers _ ih => exact law.aside ih rfl
  | setRecorder recorder rate _ ih => exact law.aside ih rfl
  | setSampleRate rate _ ih => exact law.aside ih rfl
  | takeSamples _ ih => exact law.aside ih rfl
  | attend screen tint cache cable hooks notices _ ih => exact law.aside ih rfl
  | @loadState c _ _ _ _ fits loaded _ ihSaved =>
    obtain ⟨core, restored, rfl⟩ := loadState_ok loaded
    exact @applySettings_lasting P law { c with core := core } (law.restore ihSaved fits restored)

end Console

end DotMatrix
