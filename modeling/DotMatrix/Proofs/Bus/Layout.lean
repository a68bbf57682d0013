import DotMatrix.Proofs.Bus.Effects
import DotMatrix.Proofs.Cartridge.Banks
import DotMatrix.Proofs.Sound.Stored
import DotMatrix.Proofs.Video.Course

/-!
# What decides the slots

The table of slots is made from the model, the bank registers of video and work memory, and the
bank registers of the cartridge. `Bus.layout` collects these, the table itself, the sizes of the
memories, and what the host has chosen; the contents of the memories are left out. Most operations
of the bus leave the layout alone, and those that do not select a bank and rebuild the table.

Results:
* `slotTable_of`, `slotTable_congr`: the layout decides the table.
* `step_held`, `switchSpeed_layout`: time leaves the layout alone.
* **`write_kept`**: so does a write, unless it selects a bank; then the table is rebuilt.
* `Kept.fixed`: neither changes the model, the ROM or the choices of the host.
-/

namespace DotMatrix

namespace Video

/-- The bank register of video memory, its size, and what the host has chosen. -/
def setup (v : Video) : UInt8 × Nat × Palette × Layers :=
  (v.vbk, v.vram.size, v.palette, v.layers)

theorem setVramAt_setup (v : Video) (i : Nat) (val : UInt8) :
    (v.setVramAt i val).setup = v.setup := by
  simp only [setup, setVramAt, Array.size_setIfInBounds]

theorem setup_of_backing {v v' : Video} (same : v'.backing = v.backing) : v'.setup = v.setup :=
  congrArg (fun backing => (backing.2.1, backing.1.size, backing.2.2.2.2)) same

theorem writeColourReg_setup (v : Video) {addr : UInt16} (h : addr ≠ 0xFF4F) (val : UInt8) :
    (v.writeColourReg addr val).setup = v.setup := by
  unfold writeColourReg
  split
  · exact absurd rfl h
  all_goals rfl

namespace Run

theorem advance_setup (r : Run) : r.advance.1.video.setup = r.video.setup :=
  setup_of_backing (advance_backing r)

/-! ## Registers -/

theorem writeLcdc_setup (r : Run) (val : UInt8) :
    (r.writeLcdc val).video.setup = r.video.setup := by
  simp only [writeLcdc]
  split
  · rfl
  · split <;> rfl

/-- Only one register selects the bank of video memory. -/
theorem write_setup (r : Run) {addr : UInt16} (h : addr ≠ 0xFF4F) (val : UInt8) :
    (r.write addr val).video.setup = r.video.setup := by
  unfold write
  split
  · exact writeLcdc_setup r val
  all_goals try rfl
  simp only [update]
  split
  · exact writeColourReg_setup r.video h val
  · rfl

/-- Only the bank register itself is changed even so. -/
theorem write_chosen (r : Run) (addr : UInt16) (val : UInt8) :
    (r.write addr val).video.setup.2 = r.video.setup.2 := by
  by_cases h : addr = 0xFF4F
  · subst h
    change (if r.video.isColour then _ else _ : Video).setup.2 = _
    split <;> rfl
  · exact congrArg Prod.snd (write_setup r h val)

end Run

end Video

/-- What makes a cartridge the same at another time. -/
def Cartridge.identity (c : Cartridge) : Rom × UInt8 × Controller × Nat × Features :=
  (c.rom, c.cartType, c.controller, c.romSize, c.features)

/-- The cartridge without the contents of its RAM and its clock. -/
def Cartridge.blank (c : Cartridge) : Cartridge :=
  { c with ram := Array.replicate c.ram.size 0, clock := {} }

theorem Cartridge.writeRam_blank (c : Cartridge) (addr : UInt16) (val : UInt8) :
    (c.writeRam addr val).blank = c.blank := by
  unfold Cartridge.writeRam
  split
  · rfl
  split
  · simp [Cartridge.blank]
  · rfl
  · unfold Cartridge.writeRamStore
    simp only
    split
    · simp [Cartridge.blank]
    · rfl

namespace Bus

/-- What the slots are made from, the slots, the sizes of the memories, and what the host has
chosen. -/
structure Layout where
  slots : Vector Slot 16
  model : Model
  svbk : UInt8
  cart : Option Cartridge
  wramSize : Nat
  video : UInt8 × Nat × Palette × Layers
  sound : Bool × Nat × Nat

/-- The layout of a bus. -/
def layout (b : Bus) : Layout :=
  { slots := b.slots
    model := b.model
    svbk := b.svbk
    cart := b.cart.map Cartridge.blank
    wramSize := b.wram.size
    video := b.video.setup
    sound := b.sound.listening }

/-- The slots of a cartridge do not depend on the contents of its RAM. -/
theorem elim_blank {cart cart' : Option Cartridge}
    (h : cart.map Cartridge.blank = cart'.map Cartridge.blank) {f : Cartridge → Slot}
    (shown : ∀ c, f c.blank = f c) : cart.elim .empty f = cart'.elim .empty f := by
  have same := congrArg (fun o : Option Cartridge => o.elim Slot.empty f) h
  simp only [Option.elim_map, Function.comp_def, shown] at same
  exact same

/-- What the table of slots is made from. -/
theorem slotTable_of {b b' : Bus} (model : b.model = b'.model)
    (vbk : b.video.vbk = b'.video.vbk) (svbk : b.svbk = b'.svbk)
    (cart : b.cart.map Cartridge.blank = b'.cart.map Cartridge.blank) :
    b.slotTable = b'.slotTable := by
  have vram : b.vramBase = b'.vramBase := by
    unfold vramBase isColour
    rw [model, vbk]
  have wram : b.wramBase = b'.wramBase := by
    unfold wramBase isColour
    rw [model, svbk]
  have rom (i : Nat) := elim_blank cart (f := fun c => c.romSlot i) fun _ => rfl
  have ram (upper : Bool) := elim_blank cart (f := fun c => c.ramSlot upper) fun _ => rfl
  unfold slotTable
  congr 1
  funext i
  simp only [slotFor, vram, wram, rom, ram]

/-- The layout decides the table of slots. -/
theorem slotTable_congr {b b' : Bus} (h : b.layout = b'.layout) : b.slotTable = b'.slotTable := by
  simp only [layout, Layout.mk.injEq] at h
  obtain ⟨-, model, svbk, cart, -, video, -⟩ := h
  exact slotTable_of model (congrArg Prod.fst video) svbk cart

/-- What time leaves alone: the layout, the cartridge, and the enabled interrupts. -/
def held (b : Bus) : Layout × Option Cartridge × UInt8 :=
  (b.layout, b.cart, b.enables)

/-! ## Time -/

theorem afterTimer_held (b : Bus) (r : Timer.Run) : (b.afterTimer r).held = b.held := by
  have sound := (Sound.deaf_stepSequencerMany r.edges).listening b.sound
  simp only [afterTimer_eq, held, layout, sound]

/-- A change of the picture unit that keeps its setup changes nothing else. -/
theorem held_of_setup {b : Bus} {video : Video} (requests : UInt8)
    (h : video.setup = b.video.setup) :
    held { b with video := video, requests := requests } = b.held := by
  simp only [held, layout, h]

theorem transferBlock_held (b : Bus) : b.transferBlock.held = b.held := by
  obtain ⟨vram, size, filled⟩ := transferBlock_fills b
  rw [filled]
  simp only [held, layout, Video.setup, size]

theorem countHblank_held (b : Bus) : b.countHblank.held = b.held := rfl

theorem endLine_held (b : Bus) : b.endLine.held = b.held := by
  unfold endLine
  rw [countHblank_held]
  split
  · exact transferBlock_held b
  · rfl

theorem onEvent_held (b : Bus) (event : Option Video.Event) : (b.onEvent event).held = b.held := by
  unfold onEvent
  split
  · rfl
  · exact endLine_held b
  · rfl

theorem advanceVideo_held (b : Bus) : b.advanceVideo.held = b.held := by
  unfold advanceVideo
  rw [onEvent_held]
  exact held_of_setup _ (Video.Run.advance_setup _)

theorem settle_held (b : Bus) : b.settle.held = b.held := by
  fun_induction settle b with
  | case1 b due ih => rw [ih, advanceVideo_held]
  | case2 b idle => rfl

theorem stepDevices_held (b : Bus) (cycles : Nat) : (b.stepDevices cycles).held = b.held := by
  unfold stepDevices
  rw [settle_held]
  simp only [held, layout, Video.setup_of_backing (Video.tick_backing _ _), Sound.step_listening]

/-- Time leaves the layout, the cartridge and the enabled interrupts alone. -/
theorem step_held (b : Bus) (cycles : Nat) : (b.step cycles).held = b.held := by
  unfold step
  rw [stepDevices_held]
  exact afterTimer_held b _

theorem step_layout (b : Bus) (cycles : Nat) : (b.step cycles).layout = b.layout :=
  congrArg Prod.fst (step_held b cycles)

theorem afterTimer_layout (b : Bus) (r : Timer.Run) : (b.afterTimer r).layout = b.layout :=
  congrArg Prod.fst (afterTimer_held b r)

theorem switchSpeed_layout (b : Bus) : b.switchSpeed.layout = b.layout :=
  afterTimer_layout _ _

/-! ## Registers -/

theorem writeVideo_layout (b : Bus) {addr : UInt16} (h : addr ≠ 0xFF4F) (val : UInt8) :
    (b.writeVideo addr val).layout = b.layout :=
  congrArg Prod.fst (held_of_setup _ (Video.Run.write_setup _ h val))

theorem fillObjects_layout (b : Bus) (val : UInt8) : (b.fillObjects val).layout = b.layout := by
  simp only [fillObjects, layout, Video.setup]

theorem writeTransfer_layout (b : Bus) (val : UInt8) : (b.writeTransfer val).layout = b.layout := by
  obtain ⟨stall, notices, vram, transfer, size, filled⟩ := writeTransfer_fills b val
  rw [filled]
  simp only [layout, Video.setup, size]

/-! ## Writes -/

/-- What may happen to the layout: nothing, or a bank is selected and the table rebuilt. -/
inductive Kept (b : Bus) : Bus → Prop where
  | same {b' : Bus} (layout : b'.layout = b.layout) : Kept b b'
  | selected {b0 : Bus} (model : b0.model = b.model)
      (cart : b0.cart = b.cart ∨ ∃ addr val, b0.cart = b.cart.map fun c => c.writeControl addr val)
      (wram : b0.wram.size = b.wram.size) (video : b0.video.setup.2 = b.video.setup.2)
      (sound : b0.sound.listening = b.sound.listening) : Kept b b0.remap

variable (b : Bus) (addr : UInt16) (val : UInt8)

theorem writeCartRam_layout : (b.writeCartRam addr val).layout = b.layout := by
  have blanks : (Cartridge.blank ∘ fun c : Cartridge => c.writeRam addr val) = Cartridge.blank :=
    funext fun c => c.writeRam_blank addr val
  simp only [writeCartRam, layout, Option.map_map, blanks]

theorem writeWram_layout : (b.writeWram addr val).layout = b.layout := by
  simp only [writeWram, layout, Array.size_setIfInBounds]

theorem writeSound_layout : layout { b with sound := b.sound.write addr val } = b.layout := by
  have sound := (Sound.deaf_write addr val).listening b.sound
  simp only [layout, sound]

variable {b} {addr} {val} in
theorem Wrote.kept {b' : Bus} (h : b.Wrote addr val b') : b.Kept b' := by
  cases h with
  | nothing | oam | hram | enables | joypad | link | requests | speed | undocumented =>
    exact .same rfl
  | vram place => exact .same (by simp only [layout, Video.setVramAt_setup])
  | control => exact .selected rfl (.inr ⟨addr, val, rfl⟩) rfl rfl rfl
  | cartRam => exact .same (writeCartRam_layout b addr val)
  | wram => exact .same (writeWram_layout b addr val)
  | timer => exact .same (afterTimer_layout b _)
  | sound => exact .same (writeSound_layout b addr val)
  | picture other => exact .same (writeVideo_layout b other val)
  | screenOff here notice =>
    exact .same (writeVideo_layout (b.report notice) (here ▸ by decide) val)
  | objects => exact .same (fillObjects_layout b val)
  | videoBank => exact .selected rfl (.inl rfl) rfl (Video.Run.write_chosen _ addr val) rfl
  | transfer => exact .same (writeTransfer_layout b val)
  | workBank => exact .selected rfl (.inl rfl) rfl rfl rfl

/-- A write leaves the layout alone, or selects a bank. -/
theorem write_kept : b.Kept (b.write addr val) :=
  (write_wrote b addr val).kept

/-! ## What no operation changes -/

/-- What stays the same while a machine runs: the model, the ROM, and what the host has chosen. -/
structure Fixed where
  model : Model
  cart : Option (Rom × UInt8 × Controller × Nat × Features)
  video : Nat × Palette × Layers
  sound : Bool × Nat × Nat

/-- What stays the same on a bus. -/
def fixed (b : Bus) : Fixed :=
  { model := b.model
    cart := b.cart.map Cartridge.identity
    video := b.video.setup.2
    sound := b.sound.listening }

variable {b} {b' : Bus}

theorem fixed_of_layout (h : b'.layout = b.layout) : b'.fixed = b.fixed := by
  simp only [layout, Layout.mk.injEq] at h
  obtain ⟨-, model, -, cart, -, video, sound⟩ := h
  have identity := congrArg (Option.map Cartridge.identity) cart
  simp only [Option.map_map] at identity
  simp only [fixed, model, video, sound]
  exact congrArg (Fixed.mk _ · _ _) identity

theorem remap_fixed (b : Bus) : b.remap.fixed = b.fixed := by
  unfold remap
  rfl

theorem Kept.fixed (h : b.Kept b') : b'.fixed = b.fixed := by
  cases h with
  | same layout => exact fixed_of_layout layout
  | @selected b0 model cart wram video sound =>
    have identity : b0.cart.map Cartridge.identity = b.cart.map Cartridge.identity := by
      rcases cart with same | ⟨addr, val, written⟩
      · rw [same]
      · rw [written, Option.map_map]
        refine congrArg (Option.map · b.cart) (funext fun c => ?_)
        have same : (c.writeControl addr val).unbanked.identity = c.unbanked.identity := by
          rw [c.writeControl_unbanked]
        exact same
    rw [remap_fixed]
    simp only [Bus.fixed, model, identity, video, sound]

end Bus

end DotMatrix
