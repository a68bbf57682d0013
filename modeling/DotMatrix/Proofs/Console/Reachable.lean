import DotMatrix.Console.Host
import DotMatrix.Proofs.Bus.Slots
import DotMatrix.Proofs.Cpu.Simulation

/-!
# Consoles that can be reached

An `Action` is what may happen to a console while it plays: time, buttons, writes, battery saves,
the clock, a reset. `Consistent` says that the slots are up to date, that the picture follows the
settings, and that without a recorder nothing is counted for it. It holds of every console that can
be reached.

Results:
* `settled_invariant`: the processor keeps the slots up to date and changes nothing that is fixed.
* `act_consistent`, `perform_consistent`, `Chose.consistent`: so do the actions and the host.
* **`Reachable.consistent`**: every console that can be reached is consistent.
-/

namespace DotMatrix

/-! ## The processor -/

namespace Bus

theorem spoilOam_layout (b : Bus) : layout { b with video := b.video.spoilOam } = b.layout := by
  have setup : b.video.spoilOam.setup = b.video.setup := by
    unfold Video.spoilOam
    split
    · rfl
    · simp only [Video.setup]
  simp only [layout, setup]

/-- Slots that are up to date, and the given fixed part. -/
structure Settled (k : Fixed) (b : Bus) : Prop where
  mapped : b.Mapped
  fixed : b.fixed = k

theorem Settled.keep {k : Fixed} {b c : Bus} (h : b.Settled k) (kept : b.Kept c) : c.Settled k :=
  ⟨kept.mapped h.mapped, kept.fixed.trans h.fixed⟩

/-- Whatever the processor does to a bus, the slots stay up to date, and what is fixed stays. -/
theorem settled_invariant (k : Fixed) : Invariant (Settled k) where
  write h addr val := h.keep (write_kept _ addr val)
  acknowledge h _ := h.keep (.same rfl)
  spoilOam h := h.keep (.same (spoilOam_layout _))
  switchSpeed h := h.keep (.same (switchSpeed_layout _))
  report h _ := h.keep (.same rfl)
  takeStall h := h.keep (.same rfl)
  step h cycles := h.keep (.same (step_layout _ cycles))

/-- Devices with other choices of the host leave the slots up to date. -/
theorem Mapped.withDevices {b : Bus} (h : b.Mapped) {video : Video} (sound : Sound)
    (vbk : video.vbk = b.video.vbk) (vram : video.vram.size = b.video.vram.size) :
    Mapped { b with video := video, sound := sound } where
  slots := h.slots.trans (slotTable_of rfl vbk.symm rfl rfl)
  cart := h.cart
  wram := h.wram
  vram := vram.trans h.vram

end Bus

namespace Core

variable {m : Core}

theorem turn_settled (h : m.bus.Mapped) : m.turn.1.bus.Settled m.bus.fixed :=
  turn_keeps (Bus.settled_invariant m.bus.fixed) ⟨h, rfl⟩

theorem run_settled (h : m.bus.Mapped) (cycles : Nat) : (m.run cycles).1.bus.Settled m.bus.fixed :=
  run_keeps (Bus.settled_invariant m.bus.fixed) ⟨h, rfl⟩ cycles

end Core

namespace Console

/-! ## What happens to a console -/

/-- What may happen to a console while it plays. -/
inductive Action
  | turn
  | run (cycles : Nat)
  | frame
  | reset
  | setButtons (mask : UInt8) (down : Bool)
  | loadSave (data : Array UInt8)
  | setClock (clock : Clock)
  | write (addr : UInt16) (val : UInt8)

/-- The console after an action. What is refused changes nothing. -/
def act (c : Console) : Action → Console
  | .turn => c.turn.1
  | .run cycles => (c.run cycles).1
  | .frame => c.runFrame.1
  | .reset => c.reset
  | .setButtons mask down => c.setButtons mask down
  | .loadSave data => (c.loadSave data).toOption.getD c
  | .setClock clock => (c.setClock clock).toOption.getD c
  | .write addr val => c.onBus fun b => b.write addr val

/-- The console after some actions. -/
def perform (c : Console) (actions : List Action) : Console :=
  actions.foldl act c

/-- The slots are up to date, the picture follows the settings, and without a recorder no samples
are taken and no cycles counted for them. -/
structure Consistent (c : Console) : Prop where
  mapped : c.core.bus.Mapped
  chosen : c.core.bus.fixed.video.2 = (c.settings.palette.palette, c.settings.layers)
  silent : c.core.bus.fixed.sound.1 = false → c.core.bus.fixed.sound = (false, 0, 0)

/-- The same machine at another time: its settings, its model, its ROM, and whether there is a
recorder. -/
structure Kin (c c' : Console) : Prop where
  settings : c'.settings = c.settings
  model : c'.core.bus.fixed.model = c.core.bus.fixed.model
  cart : c'.core.bus.fixed.cart = c.core.bus.fixed.cart
  recorder : c'.core.bus.fixed.sound.1 = c.core.bus.fixed.sound.1

variable {c c' : Console}

theorem Kin.refl (c : Console) : c.Kin c :=
  ⟨rfl, rfl, rfl, rfl⟩

theorem Kin.trans {d : Console} (h : c.Kin c') (h' : c'.Kin d) : c.Kin d where
  settings := h'.settings.trans h.settings
  model := h'.model.trans h.model
  cart := h'.cart.trans h.cart
  recorder := h'.recorder.trans h.recorder

/-- Where what is fixed stays, a console stays consistent and the same. -/
theorem Consistent.keep (h : c.Consistent) (settings : c'.settings = c.settings)
    (mapped : c'.core.bus.Mapped) (fixed : c'.core.bus.fixed = c.core.bus.fixed) :
    c'.Consistent ∧ c.Kin c' := by
  refine ⟨⟨mapped, ?_, ?_⟩, ⟨settings, ?_, ?_, ?_⟩⟩
  · rw [fixed, settings]
    exact h.chosen
  · rw [fixed]
    exact h.silent
  all_goals rw [fixed]

/-- An operation of the bus alone. -/
theorem Consistent.onBus (h : c.Consistent) {f : Bus → Bus}
    (kept : c.core.bus.Kept (f c.core.bus)) : (c.onBus f).Consistent ∧ c.Kin (c.onBus f) :=
  h.keep rfl (kept.mapped h.mapped) kept.fixed

/-- A cartridge that differs in RAM or clock. -/
theorem withCart_kept {cart cart' : Cartridge} (inside : c.cart = some cart)
    (same : cart'.blank = cart.blank) :
    c.core.bus.Kept { c.core.bus with cart := some cart' } := by
  have inside : c.core.bus.cart = some cart := inside
  refine .same ?_
  simp only [Bus.layout, inside, Option.map_some, same]

/-! ## What is accepted -/

/-- An image is loaded for the model that its header and the settings select. -/
theorem load_selected {rom : Rom} (loaded : c.load rom = .ok c') : ∃ header model,
    Header.read rom = .ok header ∧ header.selectModel c.settings.model.forced = .ok model ∧
      c' = c.start header (Cartridge.ofHeader header rom) model := by
  cases read : Header.read rom with
  | error fault =>
    rw [load, read] at loaded
    cases loaded
  | ok header =>
    cases selected : header.selectModel c.settings.model.forced with
    | error fault =>
      simp only [load, read, bind, Except.bind, selected] at loaded
      cases loaded
    | ok model =>
      simp only [load, read, bind, Except.bind, selected] at loaded
      cases loaded
      exact ⟨header, model, rfl, selected, rfl⟩

/-- An image that is accepted makes the cartridge that is started. -/
theorem load_ok {rom : Rom} (loaded : c.load rom = .ok c') : ∃ header model,
    Header.read rom = .ok header ∧ c' = c.start header (Cartridge.ofHeader header rom) model := by
  obtain ⟨header, model, read, -, started⟩ := load_selected loaded
  exact ⟨header, model, read, started⟩

theorem loadState_ok {data : List UInt8} (loaded : c.loadState data = .ok c') : ∃ core,
    Snapshot.restore c.core data = .ok core ∧ c' = applySettings { c with core := core } := by
  cases restored : Snapshot.restore c.core data with
  | error fault =>
    rw [loadState, restored] at loaded
    cases loaded
  | ok core =>
    rw [loadState, restored] at loaded
    cases loaded
    exact ⟨core, rfl, rfl⟩

theorem loadSave_ok {data : Array UInt8} (loaded : c.loadSave data = .ok c') : ∃ cart taken,
    c.cart = some cart ∧ cart.loadSave data = .ok taken ∧
      c' = if cart.lacksClockBlock data
        then (c.withCart taken).onBus fun b => b.report .clockBlockMissing
        else c.withCart taken := by
  unfold loadSave at loaded
  split at loaded
  · cases loaded
  · rename_i cart inside
    cases read : cart.loadSave data with
    | error fault =>
      rw [read] at loaded
      cases loaded
    | ok taken =>
      rw [read] at loaded
      cases loaded
      exact ⟨cart, taken, inside, read, rfl⟩

theorem setClock_ok {clock : Clock} (set : c.setClock clock = .ok c') :
    ∃ cart, c.cart = some cart ∧ c' = c.withCart (cart.setClock clock) := by
  unfold setClock at set
  split at set
  · cases set
  · rename_i cart inside
    split at set
    · cases set
      exact ⟨cart, inside, rfl⟩
    · cases set

/-! ## Power-up -/

theorem applySettings_bus (c : Console) :
    c.applySettings.core.bus = { c.core.bus with
      video := (c.core.bus.video.setPalette c.settings.palette.palette).setLayers c.settings.layers
      sound := c.core.bus.sound.setSampleRate c.settings.sampleRate } := by
  simp only [applySettings, onVideo, onSound, onBus]

theorem setSampleRate_silent {s : Sound} (none : s.recorder.isSome = false) (rate : Nat) :
    (s.setSampleRate rate).listening = (false, 0, 0) := by
  simp [Sound.listening, Sound.setSampleRate, none]

/-- The devices take over the settings, whatever they were set to. -/
theorem applySettings_consistent (mapped : c.core.bus.Mapped) :
    c.applySettings.Consistent ∧ c.Kin c.applySettings := by
  have settings : c.applySettings.settings = c.settings := by
    simp only [applySettings, onVideo, onSound, onBus]
  have bus := applySettings_bus c
  refine ⟨⟨?_, ?_, ?_⟩, ⟨settings, ?_, ?_, ?_⟩⟩
  · rw [bus]
    exact mapped.withDevices _ rfl rfl
  · rw [bus, settings]
    rfl
  · rw [bus]
    exact fun none => setSampleRate_silent none _
  all_goals
    rw [bus]
    rfl

/-- A reset leaves a consistent console, whatever the devices were set to. -/
theorem resetTo_consistent (cart : ∀ cart ∈ c.cart, Bus.Fitted cart) (model : Model) :
    (c.resetTo model).Consistent := by
  let b : Bus := c.core.bus.reset model
  have applied := @applySettings_consistent { c with core := ⟨Cpu.boot model, b⟩ }
    (Bus.reset_mapped cart model)
  exact ⟨applied.1.mapped, applied.1.chosen, applied.1.silent⟩

theorem reset_recorder (b : Bus) (model : Model) :
    (b.reset model).sound.recorder = b.sound.recorder := by
  simp only [Bus.reset, Bus.remap, Sound.boot, Sound.adoptHost]

theorem reset_kin (c : Console) : c.Kin c.reset where
  settings := by simp only [reset, resetTo, applySettings, onVideo, onSound, onBus]
  model := by
    simp only [reset, resetTo, applySettings, onVideo, onSound, onBus, Bus.fixed]
    rfl
  cart := by
    have cart : (c.cart.map Cartridge.reset).map Cartridge.identity =
        c.cart.map Cartridge.identity := by
      rw [Option.map_map]
      rfl
    exact cart
  recorder := congrArg Option.isSome (reset_recorder c.core.bus c.model)

/-! ## Actions -/

theorem tickClock_kept (b : Bus) : b.Kept { b with cart := b.cart.map Cartridge.tickClock } := by
  have blanks : Cartridge.blank ∘ Cartridge.tickClock = Cartridge.blank := by
    funext cart
    change (if cart.features.clock then _ else _ : Cartridge).blank = cart.blank
    split <;> rfl
  refine .same ?_
  simp only [Bus.layout, Option.map_map, blanks]

theorem countFrame_consistent (h : c.Consistent) :
    c.countFrame.Consistent ∧ c.Kin c.countFrame := by
  have counted : Consistent { c with frames := c.frames + 1 } := ⟨h.mapped, h.chosen, h.silent⟩
  simp only [countFrame]
  split
  · obtain ⟨consistent, kin⟩ := counted.onBus
      (f := fun b => { b with cart := b.cart.map Cartridge.tickClock }) (tickClock_kept c.core.bus)
    exact ⟨consistent, kin.settings, kin.model, kin.cart, kin.recorder⟩
  · exact ⟨counted, rfl, rfl, rfl, rfl⟩

theorem runFrame_consistent (h : c.Consistent) : c.runFrame.1.Consistent ∧ c.Kin c.runFrame.1 := by
  obtain ⟨mapped, fixed⟩ := Core.run_settled h.mapped cyclesPerFrame
  obtain ⟨ran, kin⟩ := @Consistent.keep c (c.run cyclesPerFrame).1 h rfl mapped fixed
  obtain ⟨counted, kin'⟩ := countFrame_consistent ran
  exact ⟨counted, kin.trans kin'⟩

/-- A battery save of the right size leaves the size of the RAM alone. -/
theorem loadSave_blank {cart loaded : Cartridge} (fitted : Bus.Fitted cart) {data : Array UInt8}
    (h : cart.loadSave data = .ok loaded) : loaded.blank = cart.blank := by
  unfold Cartridge.loadSave at h
  split at h
  · cases h
  split at h
  · cases h
  · rename_i accepted
    cases h
    have ram := fitted.1.ram
    have inside := fitted.1.inside
    have enough : cart.ramSize ≤ data.size :=
      Cartridge.ramSize_le_of_accepted (by simpa using accepted)
    have size : (data.extract 0 cart.ramSize ++
        cart.ram.extract cart.ramSize cart.ram.size).size = cart.ram.size := by
      rw [Array.size_append, Array.size_extract, Array.size_extract]
      omega
    simp only [Cartridge.blank, size]

theorem loadSave_consistent (h : c.Consistent) {data : Array UInt8}
    (loaded : c.loadSave data = .ok c') : c'.Consistent ∧ c.Kin c' := by
  obtain ⟨cart, taken, inside, read, rfl⟩ := loadSave_ok loaded
  have blank := loadSave_blank (h.mapped.cart cart inside) read
  have filled := h.onBus (f := fun b => { b with cart := some taken }) (withCart_kept inside blank)
  split
  · obtain ⟨noticed, kin⟩ := filled.1.onBus (f := fun b => b.report .clockBlockMissing) (.same rfl)
    exact ⟨noticed, filled.2.trans kin⟩
  · exact filled

theorem setClock_consistent (h : c.Consistent) {clock : Clock} (set : c.setClock clock = .ok c') :
    c'.Consistent ∧ c.Kin c' := by
  obtain ⟨cart, inside, rfl⟩ := setClock_ok set
  exact h.onBus (f := fun b => { b with cart := some (cart.setClock clock) })
    (withCart_kept inside rfl)

/-- What is refused changes nothing. -/
theorem refused_or {result : Except Fault Console} {P : Console → Prop} (unchanged : P c)
    (changed : ∀ c', result = .ok c' → P c') : P (result.toOption.getD c) := by
  cases result with
  | error fault => exact unchanged
  | ok c' => exact changed c' rfl

/-- Every action leaves a console consistent, and the same machine. -/
theorem act_consistent (h : c.Consistent) (a : Action) :
    (c.act a).Consistent ∧ c.Kin (c.act a) := by
  cases a with
  | turn =>
    obtain ⟨mapped, fixed⟩ := Core.turn_settled h.mapped
    exact h.keep rfl mapped fixed
  | run cycles =>
    obtain ⟨mapped, fixed⟩ := Core.run_settled h.mapped cycles
    exact h.keep rfl mapped fixed
  | frame => exact runFrame_consistent h
  | reset => exact ⟨resetTo_consistent h.mapped.cart c.model, reset_kin c⟩
  | setButtons mask down => exact h.onBus (f := fun b => b.setButtons mask down) (.same rfl)
  | loadSave data => exact refused_or ⟨h, .refl c⟩ fun c' loaded => loadSave_consistent h loaded
  | setClock clock => exact refused_or ⟨h, .refl c⟩ fun c' set => setClock_consistent h set
  | write addr val =>
    exact h.onBus (f := fun b => b.write addr val) (Bus.write_kept c.core.bus addr val)

theorem perform_consistent (h : c.Consistent) (actions : List Action) :
    (c.perform actions).Consistent ∧ c.Kin (c.perform actions) := by
  induction actions generalizing c with
  | nil => exact ⟨h, .refl c⟩
  | cons a rest ih =>
    obtain ⟨acted, kin⟩ := act_consistent h a
    obtain ⟨done, kin'⟩ := ih acted
    exact ⟨done, kin.trans kin'⟩

/-! ## The host -/

theorem start_consistent (c : Console) {cart : Cartridge} (fitted : Bus.Fitted cart)
    (header : Header) (model : Model) : (c.start header cart model).Consistent := by
  refine resetTo_consistent (c := { c.onBus _ with header := some header }) ?_ model
  rintro inserted ⟨⟩
  exact fitted

theorem load_consistent {rom : Rom} (loaded : c.load rom = .ok c') : c'.Consistent := by
  obtain ⟨header, model, accepted, rfl⟩ := load_ok loaded
  exact start_consistent c (Cartridge.ofRom_coherent (Cartridge.ofRom_of_read accepted)) header model

theorem loadState_consistent {saved : Console} (h : c.Consistent) (hs : saved.Consistent)
    (fits : saved.core.bus.Fits) (loaded : c.loadState saved.saveState = .ok c') :
    c'.Consistent := by
  obtain ⟨core, restored, rfl⟩ := loadState_ok loaded
  exact (applySettings_consistent (Bus.restore_mapped h.mapped hs.mapped fits restored)).1

/-- What a host may do to a console between its actions: set a register of the processor, choose,
listen, and attend to what it has attached. -/
inductive Chose (c : Console) : Console → Prop where
  | setRegister (name : Register) (w : UInt16) :
      Chose c { c with core := c.core.onCpu fun r => r.set name w }
  | setPalette (palette : Palette) : Chose c (c.setPalette palette)
  | setLayers (layers : Layers) : Chose c (c.setLayers layers)
  | setRecorder (recorder : Option (Array Sample)) (rate : Nat) :
      Chose c (c.setRecorder recorder rate)
  | setSampleRate (rate : Nat) : Chose c (c.setSampleRate rate)
  | takeSamples : Chose c (c.onSound fun s => s.takeSamples.2)
  | attend (screen : Option PixelBuffer) (tint : Option Tint) (cache : ColourCache)
      (cable : Option Cable) (hooks : Hooks) (notices : Array Notice) :
      Chose c (c.onBus fun b => { b with
        video := { b.video with screen := screen, tint := tint, cache := cache }
        link := { b.link with cable := cable }
        hooks := hooks
        notices := notices })

/-- A host leaves a console consistent. -/
theorem Chose.consistent (chose : c.Chose c') (h : c.Consistent) : c'.Consistent := by
  cases chose with
  | setRegister name w => exact ⟨h.mapped, h.chosen, h.silent⟩
  | setPalette palette =>
    have layers := (Prod.ext_iff.mp h.chosen).2
    exact ⟨h.mapped.withDevices _ rfl rfl, Prod.ext rfl layers, h.silent⟩
  | setLayers layers =>
    have palette := (Prod.ext_iff.mp h.chosen).1
    exact ⟨h.mapped.withDevices _ rfl rfl, Prod.ext palette rfl, h.silent⟩
  | setRecorder recorder rate =>
    exact ⟨h.mapped.withDevices _ rfl rfl, h.chosen, fun none => setSampleRate_silent none _⟩
  | setSampleRate rate =>
    exact ⟨h.mapped.withDevices _ rfl rfl, h.chosen, fun none => setSampleRate_silent none _⟩
  | takeSamples =>
    have listening : c.core.bus.sound.takeSamples.2.listening = c.core.bus.sound.listening := by
      simp only [Sound.takeSamples, Sound.listening, Option.isSome_map]
      rfl
    refine (h.onBus (f := fun b => { b with sound := b.sound.takeSamples.2 }) (.same ?_)).1
    simp only [Bus.layout, listening]
  | attend screen tint cache cable hooks notices => exact (h.onBus (.same rfl)).1

/-- The consoles that can be reached: from power-up by cartridges, actions, the host's choices and
registers, by what the host does with the picture, the cable, the recorder and the notices, and by
snapshots of consoles that can be reached. -/
inductive Reachable : Console → Prop where
  | new (settings : Settings) : Reachable (Console.new settings)
  | load {c c' : Console} {rom : Rom} : Reachable c → c.load rom = .ok c' → Reachable c'
  | act {c : Console} (a : Action) : Reachable c → Reachable (c.act a)
  | setRegister {c : Console} (name : Register) (w : UInt16) :
      Reachable c → Reachable { c with core := c.core.onCpu fun r => r.set name w }
  | setPalette {c : Console} (palette : Palette) : Reachable c → Reachable (c.setPalette palette)
  | setLayers {c : Console} (layers : Layers) : Reachable c → Reachable (c.setLayers layers)
  | setRecorder {c : Console} (recorder : Option (Array Sample)) (rate : Nat) :
      Reachable c → Reachable (c.setRecorder recorder rate)
  | setSampleRate {c : Console} (rate : Nat) : Reachable c → Reachable (c.setSampleRate rate)
  | takeSamples {c : Console} : Reachable c → Reachable (c.onSound fun s => s.takeSamples.2)
  | attend {c : Console} (screen : Option PixelBuffer) (tint : Option Tint) (cache : ColourCache)
      (cable : Option Cable) (hooks : Hooks) (notices : Array Notice) :
      Reachable c → Reachable (c.onBus fun b => { b with
        video := { b.video with screen := screen, tint := tint, cache := cache }
        link := { b.link with cable := cable }
        hooks := hooks
        notices := notices })
  | loadState {c saved c' : Console} : Reachable c → Reachable saved → saved.core.bus.Fits →
      c.loadState saved.saveState = .ok c' → Reachable c'

/-- Every console that can be reached is consistent. -/
theorem Reachable.consistent (h : c.Reachable) : c.Consistent := by
  induction h with
  | new settings => exact (applySettings_consistent (Bus.new_mapped _)).1
  | load _ loaded _ => exact load_consistent loaded
  | act a _ ih => exact (act_consistent ih a).1
  | setRegister name w _ ih => exact (Chose.setRegister name w).consistent ih
  | setPalette palette _ ih => exact (Chose.setPalette palette).consistent ih
  | setLayers layers _ ih => exact (Chose.setLayers layers).consistent ih
  | setRecorder recorder rate _ ih => exact (Chose.setRecorder recorder rate).consistent ih
  | setSampleRate rate _ ih => exact (Chose.setSampleRate rate).consistent ih
  | takeSamples _ ih => exact Chose.takeSamples.consistent ih
  | attend screen tint cache cable hooks notices _ ih =>
    exact (Chose.attend screen tint cache cable hooks notices).consistent ih
  | loadState _ _ fits loaded ih ihSaved => exact loadState_consistent ih ihSaved fits loaded

end Console

end DotMatrix
