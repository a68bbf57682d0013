import DotMatrix.Proofs.Cartridge.Description
import DotMatrix.Proofs.Console.Sleep

/-!
# Snapshots of other machines

A console takes a snapshot for one of its own if the models agree, and the cartridges agree in type
and ROM size. That leaves the size of the RAM: two games of one type and one ROM size may differ in
it, and then the console goes on with a cartridge that has the RAM of the other.

Results:
* `loadState_eq`: what becomes of a console that is given a snapshot of another.
* `Reachable.labelled`: the cartridge of a console is, its RAM aside, what its header says.
* **`exchange_iff`**: a console takes any snapshot of its model with a cartridge of its type and ROM
  size; its cartridge is then described as before exactly when the RAM sizes agree.
* `exchange_foreign`: a console takes a snapshot with another cartridge, and is left with a RAM bank
  that its own does not have.
-/

namespace DotMatrix

/-- What snapshots of cartridges are told apart by. -/
def Cartridge.label (c : Cartridge) : UInt8 × Nat :=
  (c.cartType, c.romSize)

namespace Snapshot

/-- The saved cartridge with the live ROM. -/
def takenOver (live saved : Option Cartridge) : Option Cartridge :=
  live.bind fun l => saved.map fun s => { s with rom := l.rom }

/-- Cartridges are exchanged if their labels agree. -/
theorem joinCartridge_eq {live saved : Option Cartridge}
    (whole : ∀ c ∈ saved, c.ram.size = Header.maxRamSize) :
    joinCartridge live saved =
      if saved.map Cartridge.label = live.map Cartridge.label then .ok (takenOver live saved)
      else .error .stateCartMismatch := by
  rcases live with _ | l <;> rcases saved with _ | s
  · rfl
  · rfl
  · rfl
  · have ram : (s.ram.size == Header.maxRamSize) = true := beq_iff_eq.mpr (whole s rfl)
    simp only [joinCartridge, sameCartridge, ram, Bool.and_true, Bool.and_eq_true, beq_iff_eq,
      Option.map_some, Option.some.injEq, Cartridge.label, Prod.mk.injEq]
    rfl

/-- The bus that `live` becomes when it takes over `saved`. -/
def exchanged (live saved : Bus) : Bus :=
  ({ saved.stored with cart := takenOver live.cart saved.cart }.adoptHost live).remap

/-- A machine takes over a snapshot of its model whose cartridge has the label of its own. -/
theorem restore_eq {live saved : Core} (mapped : saved.bus.Mapped) (fits : saved.bus.Fits) :
    restore live (encode saved) =
      if saved.bus.model ≠ live.bus.model then
        .error (.stateModelMismatch saved.bus.model live.bus.model)
      else if saved.bus.cart.map Cartridge.label = live.bus.cart.map Cartridge.label then
        .ok { cpu := saved.cpu
              bus := (exchanged live.bus saved.bus).report (.stateRestored saved.cpu.pc) }
      else .error .stateCartMismatch := by
  have decoded := decode_encode fits []
  rw [List.append_nil] at decoded
  have whole : wholeMemories saved.bus.stored = true := by
    simp [wholeMemories, Bus.stored, Video.stored, mapped.wram, mapped.vram]
  have ram : ∀ c ∈ saved.bus.stored.cart, c.ram.size = Header.maxRamSize := by
    intro c inside
    obtain ⟨old, there, rfl⟩ := Option.mem_map.mp inside
    exact (mapped.cart old there).1.ram
  have label : saved.bus.stored.cart.map Cartridge.label = saved.bus.cart.map Cartridge.label := by
    change (saved.bus.cart.map Cartridge.stored).map Cartridge.label = _
    rw [Option.map_map]
    rfl
  have taken : takenOver live.bus.cart saved.bus.stored.cart =
      takenOver live.bus.cart saved.bus.cart := by
    change takenOver live.bus.cart (saved.bus.cart.map Cartridge.stored) = _
    unfold takenOver
    simp only [Option.map_map]
    rfl
  have joined : joinBus live.bus saved.bus.stored =
      if saved.bus.model ≠ live.bus.model then
        .error (.stateModelMismatch saved.bus.model live.bus.model)
      else if saved.bus.cart.map Cartridge.label = live.bus.cart.map Cartridge.label then
        .ok (exchanged live.bus saved.bus)
      else .error .stateCartMismatch := by
    have model : saved.bus.stored.model = saved.bus.model := rfl
    rw [joinBus, whole, joinCartridge_eq ram, label, taken, model]
    simp only [Bool.not_true, Bool.false_eq_true, if_false]
    split_ifs <;> rfl
  rw [restore, decoded]
  change (joinBus live.bus saved.bus.stored).bind _ = _
  rw [joined]
  split_ifs <;> rfl

end Snapshot

namespace Console

variable {c c' saved : Console}

/-! ## What is taken over -/

/-- The console that takes over a snapshot of another. -/
def exchanged (c saved : Console) : Console :=
  let bus := Snapshot.exchanged c.core.bus saved.core.bus
  applySettings { c with
    core := { cpu := saved.core.cpu, bus := bus.report (.stateRestored saved.core.cpu.pc) } }

/-- What becomes of a console that is given a snapshot of another. -/
theorem loadState_eq (h : saved.Consistent) (fits : saved.core.bus.Fits) :
    c.loadState saved.saveState =
      if saved.model ≠ c.model then .error (.stateModelMismatch saved.model c.model)
      else if saved.cart.map Cartridge.label = c.cart.map Cartridge.label then
        .ok (c.exchanged saved)
      else .error .stateCartMismatch := by
  rw [loadState, saveState, Snapshot.restore_eq h.mapped fits]
  change (ite (saved.model ≠ c.model) _
    (ite (saved.cart.map Cartridge.label = c.cart.map Cartridge.label) _ _) >>= _) = _
  split_ifs <;> rfl

theorem loadState_taken (h : saved.Consistent) (fits : saved.core.bus.Fits)
    (model : saved.model = c.model)
    (label : saved.cart.map Cartridge.label = c.cart.map Cartridge.label) :
    c.loadState saved.saveState = .ok (c.exchanged saved) := by
  rw [loadState_eq h fits, if_neg (not_not_intro model), if_pos label]

/-- What is taken has been taken over. -/
theorem loadState_exchanged (h : saved.Consistent) (fits : saved.core.bus.Fits)
    (loaded : c.loadState saved.saveState = .ok c') :
    saved.model = c.model ∧ saved.cart.map Cartridge.label = c.cart.map Cartridge.label ∧
      c' = c.exchanged saved := by
  rw [loadState_eq h fits] at loaded
  split_ifs at loaded with model label
  · exact ⟨Decidable.not_not.mp model, label, (Except.ok.inj loaded).symm⟩

theorem exchanged_cart (c saved : Console) :
    (c.exchanged saved).cart = Snapshot.takenOver c.cart saved.cart := by
  rw [exchanged, cart, applySettings_bus]
  rfl

theorem exchanged_header (c saved : Console) : (c.exchanged saved).header = c.header := by
  simp only [exchanged, applySettings, onVideo, onSound, onBus]

/-! ## The cartridge and its header -/

/-- The cartridge comes from an image with the header of the console, and has not changed in what
makes it the same at another time. -/
def Labelled (c : Console) : Prop :=
  ∀ cart ∈ c.cart, ∃ header rom, c.header = some header ∧ Header.read rom = .ok header ∧
    cart.identity = (Cartridge.ofHeader header rom).identity

/-- A console with the same header and the same cartridge at another time. -/
theorem Labelled.keep (h : c.Labelled) (header : c'.header = c.header)
    (cart : c'.core.bus.fixed.cart = c.core.bus.fixed.cart) : c'.Labelled := by
  intro now inside
  have there : now.identity ∈ c.core.bus.fixed.cart :=
    cart ▸ Option.mem_map_of_mem Cartridge.identity inside
  obtain ⟨before, inserted, same⟩ := Option.mem_map.mp there
  rw [header, ← same]
  exact h before inserted

theorem start_labelled (c : Console) {rom : Rom} {header : Header}
    (read : Header.read rom = .ok header) (model : Model) :
    (c.start header (Cartridge.ofHeader header rom) model).Labelled := by
  have cart : (c.start header (Cartridge.ofHeader header rom) model).cart =
      some (Cartridge.ofHeader header rom).reset := rfl
  intro now inside
  rw [cart] at inside
  obtain rfl := Option.mem_some_iff.mp inside
  exact ⟨header, rom, rfl, read, rfl⟩

/-- No action changes the header. -/
theorem act_header (c : Console) (a : Action) : (c.act a).header = c.header := by
  cases a with
  | turn | run | setButtons | write => rfl
  | reset => simp only [act, reset, resetTo, applySettings, onVideo, onSound, onBus]
  | frame =>
    simp only [act, runFrame, countFrame]
    split <;> rfl
  | loadSave data =>
    refine refused_or (P := fun d => d.header = c.header) rfl fun c' loaded => ?_
    obtain ⟨cart, taken, -, -, rfl⟩ := loadSave_ok loaded
    split <;> rfl
  | setClock clock =>
    refine refused_or (P := fun d => d.header = c.header) rfl fun c' set => ?_
    obtain ⟨cart, -, rfl⟩ := setClock_ok set
    rfl

/-- Where two cartridges have one type, they have one controller and the same features: both come
from images. -/
theorem Labelled.kind (h : c.Labelled) (hs : saved.Labelled) {live old : Cartridge}
    (inside : c.cart = some live) (there : saved.cart = some old)
    (cartType : old.cartType = live.cartType) :
    old.controller = live.controller ∧ old.features = live.features := by
  obtain ⟨header, rom, -, read, same⟩ := h live inside
  obtain ⟨header', rom', -, read', same'⟩ := hs old there
  simp only [Cartridge.identity, Prod.mk.injEq] at same same'
  obtain ⟨-, type, controller, -, features⟩ := same
  obtain ⟨-, type', controller', -, features'⟩ := same'
  have typed := (Cartridge.read_ok read).1
  have typed' := (Cartridge.read_ok read').1
  have one : header'.cartType = header.cartType := type'.symm.trans (cartType.trans type)
  rw [one, typed] at typed'
  obtain ⟨controllers, features_⟩ := Prod.mk.inj (Option.some.inj typed')
  exact ⟨controller'.trans (controllers.symm.trans controller.symm),
    features'.trans (features_.symm.trans features.symm)⟩

/-- What is taken over leaves the cartridge the same. -/
theorem takenOver_identity (h : c.Labelled) (hs : saved.Labelled)
    (label : saved.cart.map Cartridge.label = c.cart.map Cartridge.label) :
    (Snapshot.takenOver c.cart saved.cart).map Cartridge.identity =
      c.cart.map Cartridge.identity := by
  cases inside : c.cart with
  | none => rfl
  | some live =>
    rw [inside] at label
    obtain ⟨old, there, same⟩ := Option.map_eq_some_iff.mp label
    simp only [Cartridge.label, Prod.mk.injEq] at same
    obtain ⟨cartType, romSize⟩ := same
    obtain ⟨controller, features⟩ := h.kind hs inside there cartType
    simp only [there, Snapshot.takenOver, Option.bind_some, Option.map_some, Cartridge.identity,
      cartType, controller, romSize, features]

theorem exchanged_labelled (h : c.Labelled) (hs : saved.Labelled)
    (label : saved.cart.map Cartridge.label = c.cart.map Cartridge.label) :
    (c.exchanged saved).Labelled := by
  refine h.keep (exchanged_header c saved) ?_
  change (c.exchanged saved).cart.map Cartridge.identity = c.cart.map Cartridge.identity
  rw [exchanged_cart]
  exact takenOver_identity h hs label

/-- The cartridge of every console that can be reached is, its RAM aside, what its header says. -/
theorem Reachable.labelled (h : c.Reachable) : c.Labelled := by
  induction h with
  | new settings =>
    have empty : (Console.new settings).cart = none := by
      rw [cart, Console.new, applySettings_bus]
      rfl
    intro cart inside
    rw [empty] at inside
    cases inside
  | load _ loaded _ =>
    obtain ⟨header, model, read, rfl⟩ := load_ok loaded
    exact start_labelled _ read model
  | act a reached ih =>
    exact ih.keep (act_header _ a) (act_consistent reached.consistent a).2.cart
  | setRegister _ _ _ ih | setPalette _ _ ih | setLayers _ _ ih | setRecorder _ _ _ ih
  | setSampleRate _ _ ih | takeSamples _ ih | attend _ _ _ _ _ _ _ ih => exact ih.keep rfl rfl
  | loadState _ reached fits loaded ih ihSaved =>
    obtain ⟨-, label, rfl⟩ := loadState_exchanged reached.consistent fits loaded
    exact exchanged_labelled ih ihSaved label

/-! ## Which snapshots are taken -/

/-- What a cartridge is after a load: `live` has been there before, with `header`, and `old` is the
one in the snapshot. -/
structure TakenOver (header : Header) (live old now : Cartridge) : Prop where
  rom : now.rom = live.rom
  before : live.description =
    { header.description with ramSize := live.ramSize, ramBanks := live.ramBanks }
  after : now.description =
    { header.description with ramSize := old.ramSize, ramBanks := old.ramBanks }
  unchanged : now.description = live.description ↔ old.ramSize = live.ramSize
  restored : now.description = header.description ↔ old.ramSize = header.ramSize
  within : now.BanksWithin header ↔ old.ramBank < header.description.ramBanks
  sized : old.ramSize = header.ramSize → now.BanksWithin header

/-- A coherent cartridge with the RAM of another and the rest of its own. -/
theorem takenOver_of {header : Header} {rom : Rom} {live old : Cartridge}
    (read : Header.read rom = .ok header) (hl : Bus.Fitted live)
    (hn : Bus.Fitted { old with rom := live.rom })
    (labelled : live.identity = (Cartridge.ofHeader header rom).identity)
    (same : ({ old with rom := live.rom } : Cartridge).identity = live.identity) :
    TakenOver header live old { old with rom := live.rom } := by
  obtain ⟨made, -⟩ := Cartridge.ofRom_coherent (Cartridge.ofRom_of_read read)
  have asMade := same.trans labelled
  have within := hn.1.banksWithin_iff hn.2 header
  have before := hl.1.description_eq made labelled
  have after := hn.1.description_eq made asMade
  have restored := hn.1.description_iff made asMade
  rw [Cartridge.ofHeader_description] at before after restored
  refine ⟨rfl, before, after, hn.1.description_iff hl.1 same, restored, within, fun sized => ?_⟩
  have banks : old.ramBanks = header.description.ramBanks := hn.1.ramBanks_eq made sized
  exact within.mpr (banks ▸ hn.1.ramBank)

/-- A console takes a snapshot of another exactly when it is one of its model, and of a cartridge
with the type and the ROM size of its own, or of none where it has none. Its cartridge then keeps its
ROM and has the RAM of the other. It is described as before exactly when the sizes of the RAM agree;
and where the other RAM has the size that the header declares, every selected bank exists. -/
theorem exchange_iff {a b : Console} (reached : a.Reachable) (other : b.Reachable)
    (fits : b.core.bus.Fits) :
    ((∃ a', a.loadState b.saveState = .ok a') ↔
        b.model = a.model ∧ b.cart.map Cartridge.label = a.cart.map Cartridge.label) ∧
      ∀ a', a.loadState b.saveState = .ok a' →
        (a.cart = none ∧ b.cart = none ∧ a'.cart = none) ∨
          ∃ header live old now, a.header = some header ∧ a'.header = some header ∧
            a.cart = some live ∧ b.cart = some old ∧ a'.cart = some now ∧
            TakenOver header live old now := by
  constructor
  · constructor
    · rintro ⟨a', loaded⟩
      obtain ⟨model, label, -⟩ := loadState_exchanged other.consistent fits loaded
      exact ⟨model, label⟩
    · rintro ⟨model, label⟩
      exact ⟨a.exchanged b, loadState_taken other.consistent fits model label⟩
  · intro a' loaded
    have mapped := (reached.loadState other fits loaded).consistent.mapped
    obtain ⟨-, label, rfl⟩ := loadState_exchanged other.consistent fits loaded
    have cart := exchanged_cart a b
    have identity := takenOver_identity reached.labelled other.labelled label
    cases inside : a.cart with
    | none =>
      rw [inside] at label cart
      exact .inl ⟨rfl, Option.map_eq_none_iff.mp label, cart⟩
    | some live =>
      rw [inside] at label cart identity
      obtain ⟨old, there, -⟩ := Option.map_eq_some_iff.mp label
      rw [there] at cart identity
      obtain ⟨header, rom, headed, read, labelled⟩ := reached.labelled live inside
      exact .inr ⟨header, live, old, _, headed, (exchanged_header a b).trans headed, rfl, there,
        cart, takenOver_of read (reached.consistent.mapped.cart live inside)
          (mapped.cart _ cart) labelled (Option.some.inj identity)⟩

/-! ## Cartridges that differ in RAM -/

/-- The bytes of an image with a battery whose RAM has the given size code. -/
def backedByte (code : UInt8) (i : Nat) : UInt8 :=
  if i = 0x147 then 0x1B else if i = 0x149 then code else 0

/-- The image. -/
def backed (code : UInt8) : Rom :=
  ⟨Array.ofFn fun i : Fin 0x8000 => backedByte code i⟩

theorem backed_size (code : UInt8) : (backed code).size = 0x8000 :=
  Array.size_ofFn

theorem backed_byte (code : UInt8) {i : Nat} (h : i < 0x8000) :
    (backed code).byte i = backedByte code i :=
  Cartridge.byte_ofFn (backedByte code) h

/-- Its header. -/
def backedHeader (code : UInt8) (ramSize : Nat) : Header :=
  { title := Header.titleOf (backed code)
    cartType := 0x1B
    controller := .mbc5
    features := { ram := true, battery := true }
    romSize := 0x8000
    ramSize := ramSize
    colour := .none
    sgb := false
    checksumOk := Header.checksumOf (backed code) == 0 }

theorem backed_read {code : UInt8} {ramSize : Nat}
    (sized : Header.ramSizeOfCode? code = some ramSize) (small : ramSize ≤ Header.maxRamSize) :
    Header.read (backed code) = .ok (backedHeader code ramSize) := by
  have romSize : Header.readRomSize (backed code) = .ok 0x8000 := by
    simp [Header.readRomSize, backed_byte, backedByte, backed_size]
  have ram : Header.readRamSize .mbc5 { ram := true, battery := true } code = .ok ramSize := by
    simp [Header.readRamSize, sized, Nat.not_lt.mpr small]
  rw [Header.read, if_neg (by rw [backed_size]; decide)]
  simp (disch := decide) only [romSize, backed_byte]
  change (Header.readRamSize .mbc5 { ram := true, battery := true } code >>= _) = _
  rw [ram]
  rfl

/-- The console that has just started it. -/
def backing (code : UInt8) (ramSize : Nat) : Console :=
  (Console.new {}).start (backedHeader code ramSize)
    (Cartridge.ofHeader (backedHeader code ramSize) (backed code)) .dmg

theorem backing_reachable {code : UInt8} {ramSize : Nat}
    (sized : Header.ramSizeOfCode? code = some ramSize) (small : ramSize ≤ Header.maxRamSize) :
    (backing code ramSize).Reachable := by
  have loaded : (Console.new {}).load (backed code) = .ok (backing code ramSize) := by
    rw [load, backed_read sized small]
    rfl
  exact (Reachable.new {}).load loaded

theorem backing_cart (code : UInt8) (ramSize : Nat) : (backing code ramSize).cart =
    some (Cartridge.ofHeader (backedHeader code ramSize) (backed code)).reset := rfl

theorem backing_model (code : UInt8) (ramSize : Nat) : (backing code ramSize).model = .dmg := rfl

theorem backing_label (code : UInt8) (ramSize : Nat) :
    (backing code ramSize).cart.map Cartridge.label = some (0x1B, 0x8000) := by
  rw [backing_cart]
  rfl

theorem backing_fits {code : UInt8} {ramSize : Nat} (small : FitsSize ramSize) :
    (backing code ramSize).core.bus.Fits := by
  have romSize : FitsSize (backedHeader code ramSize).romSize := by
    change 0x8000 ≤ 0xFFFFFFFFFFFFFFFF
    decide
  exact start_fits (ofHeader_fits (backed code) romSize small) fitsCycles_zero rfl
    (backedHeader code ramSize) .dmg

/-- It selects a bank of its RAM. -/
theorem backing_select (code : UInt8) (ramSize : Nat) (bank : UInt8) :
    ((backing code ramSize).act (.write 0x4000 bank)).cart =
      some ((Cartridge.ofHeader (backedHeader code ramSize) (backed code)).reset.writeControl
        0x4000 bank) := by
  have low : (0x4000 : UInt16) < 0x8000 := by decide
  change ((backing code ramSize).core.bus.write 0x4000 bank).cart = _
  rw [Bus.write, if_pos low, Bus.writeControl]
  rfl

/-- A console with 8 KiB of RAM is given a snapshot of one with 32 KiB and the same ROM size. -/
theorem exchange_iff_backed :
    (backing 2 0x2000).Reachable ∧ (backing 3 0x8000).Reachable ∧
      (backing 3 0x8000).core.bus.Fits ∧
      ∃ c', (backing 2 0x2000).loadState (backing 3 0x8000).saveState = .ok c' := by
  have reached : (backing 2 0x2000).Reachable := backing_reachable rfl (by decide)
  have other : (backing 3 0x8000).Reachable := backing_reachable rfl (by decide)
  have fits : (backing 3 0x8000).core.bus.Fits := backing_fits (by unfold FitsSize; decide)
  have label := (backing_label 3 0x8000).trans (backing_label 2 0x2000).symm
  have model := (backing_model 3 0x8000).trans (backing_model 2 0x2000).symm
  exact ⟨reached, other, fits, (exchange_iff reached other fits).1.mpr ⟨model, label⟩⟩

/-- A console with 8 KiB of RAM takes a snapshot of one with 32 KiB that has selected the last of its
banks. Its cartridge is then described as another, and has selected a bank that there is not. -/
theorem exchange_foreign :
    let a := backing 2 0x2000
    let b := (backing 3 0x8000).act (.write 0x4000 3)
    a.Reachable ∧ b.Reachable ∧ b.core.bus.Fits ∧ ∃ a' live now,
      a.loadState b.saveState = .ok a' ∧ a.cart = some live ∧ a'.cart = some now ∧
        now.description ≠ live.description ∧ ¬ now.BanksWithin (backedHeader 2 0x2000) := by
  intro a b
  have reached : a.Reachable := backing_reachable rfl (by decide)
  have before : (backing 3 0x8000).Reachable := backing_reachable rfl (by decide)
  have other : b.Reachable := before.act (.write 0x4000 3)
  have selected := backing_select 3 0x8000 3
  have fits : b.core.bus.Fits := by
    have first : (backing 3 0x8000).core.bus.Fits := backing_fits (by unfold FitsSize; decide)
    refine ⟨first.wram, fun cart inside => ?_, first.video, first.sound, first.stall⟩
    obtain rfl := Option.some.inj (selected.symm.trans inside)
    have started := first.cart _ (backing_cart 3 0x8000)
    exact ⟨started.ram, started.romSize, started.ramSize⟩
  have label : b.cart.map Cartridge.label = a.cart.map Cartridge.label := by
    rw [selected, backing_label]
    rfl
  have model : b.model = a.model :=
    (act_consistent before.consistent (.write 0x4000 3)).2.model.trans
      ((backing_model 3 0x8000).trans (backing_model 2 0x2000).symm)
  have loaded := loadState_taken (c := a) other.consistent fits model label
  have cart := exchanged_cart a b
  rw [selected, backing_cart] at cart
  refine ⟨reached, other, fits, a.exchanged b, _, _, loaded, backing_cart 2 0x2000, cart, ?_, ?_⟩
  · intro same
    have ramSize : 0x8000 = 0x2000 := congrArg Description.ramSize same
    cases ramSize
  · intro within
    have ram : (3 : UInt8) < 1 := within.ram
    revert ram
    decide

end Console

end DotMatrix
