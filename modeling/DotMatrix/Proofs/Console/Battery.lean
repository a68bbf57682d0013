import DotMatrix.Proofs.Cartridge.Battery
import DotMatrix.Proofs.Console.Nibbles
import DotMatrix.Proofs.Console.Refusal
import DotMatrix.Proofs.Console.Restart

/-!
# Battery saves of a machine

The bus reads the window as the cartridge shows it, and a write reaches the cartridge and nothing
behind its RAM. So the save of a cartridge holds all that a machine can find out about its memory, and
a machine that takes it up finds there what the first one has.

Results:
* `Bus.read_window`, `Bus.read_front`: what is read of a cartridge.
* `act_deep`, `perform_deep`: no action changes what lies behind the RAM.
* `Labelled.features`, `Playing.same`: cartridges with one ROM.
* `loadSave_iff`, `read_loaded`: one console takes up the save of another.
* **`battery_complete`**: battery saves of consoles that can be reached.
-/

namespace DotMatrix

open Cartridge (Solid)

/-! ## Reading -/

namespace Bus

variable {b : Bus} {c : Cartridge} {addr : UInt16}

/-- The window is read as the cartridge shows it. -/
theorem read_window (mapped : b.Mapped) (built : b.Holds Cartridge.Built) (inside : b.cart = some c)
    (low : 0xA000 ≤ addr) (high : addr < 0xC000) : b.read addr = c.shows addr := by
  have located := cellAt_located mapped built addr
  have above : 0xA000 ≤ addr.toNat := low
  have below : addr.toNat < 0xC000 := high
  rw [b.read_look (by grind)]
  generalize b.cellAt addr = cell at located ⊢
  unfold Cartridge.shows
  cases located with
  | cartRam there shown =>
    obtain rfl := Option.some.inj (inside.symm.trans there)
    rw [shown]
    simp only [look, inside, Option.elim_some]
  | clock there shown =>
    obtain rfl := Option.some.inj (inside.symm.trans there)
    rw [shown]
    simp only [look, inside, Option.elim_some]
  | shut shown =>
    rw [shown c inside]
    rfl
  | _ => omega

/-- No read looks behind the RAM. -/
theorem read_front (mapped : b.Mapped) (solid : b.Holds Solid) (inside : b.cart = some c)
    {ram : Array UInt8} (front : ram.extract 0 c.ramSize = c.ram.extract 0 c.ramSize)
    (addr : UInt16) : read { b with cart := some { c with ram := ram } } addr = b.read addr := by
  by_cases registers : 0xFF00 ≤ addr ∧ addr < 0xFF80
  · have low : ¬ addr < 0xFE00 ∧ ¬ addr < 0xFEA0 ∧ ¬ addr < 0xFF00 := by grind
    simp only [read, low, registers, if_false, if_true]
    rfl
  · have located := cellAt_located mapped (fun c inside => (solid c inside).built) addr
    rw [read_look _ (by grind), read_look _ (by grind)]
    change look _ (b.cellAt addr) = _
    generalize b.cellAt addr = cell at located ⊢
    cases located with
    | cartRam there shown =>
      obtain rfl := Option.some.inj (inside.symm.trans there)
      simp only [look, inside, Option.elim_some]
      exact Cartridge.ramByte_congr front (Cartridge.place_lt (solid c inside).coherent shown _)
    | rom | clock => simp only [look, inside, Option.elim_some, Cartridge.romByte]
    | _ => rfl

/-! ## Writing -/

/-- The cartridge is in order, and so much RAM and these bytes behind it are in it. -/
structure Deep (depth : Option (Nat × Array UInt8)) (b : Bus) : Prop where
  solid : b.Holds Solid
  depth : b.cart.map Cartridge.depth = depth

variable {depth : Option (Nat × Array UInt8)} {b' : Bus}

theorem Deep.congr (h : b.Deep depth) (same : b'.cart = b.cart) : b'.Deep depth :=
  ⟨h.solid.congr same, (congrArg (Option.map Cartridge.depth) same).trans h.depth⟩

theorem Deep.map (h : b.Deep depth) {f : Cartridge → Cartridge}
    (keep : ∀ {c}, Solid c → (f c).Solid ∧ (f c).depth = c.depth) (same : b'.cart = b.cart.map f) :
    b'.Deep depth := by
  refine ⟨h.solid.map (fun solid => (keep solid).1) same, ?_⟩
  rw [← h.depth, same, Option.map_map]
  refine Option.map_congr fun c inside => ?_
  exact (keep (h.solid c inside)).2

/-- The cartridge is filled anew, but for what lies behind the RAM. -/
theorem Deep.refill (h : b.Deep depth) (inside : b.cart = some c) {d : Cartridge}
    (blank : d.blank = c.blank) (beyond : d.beyond = c.beyond) :
    Deep depth { b with cart := some d } := by
  refine ⟨?_, ?_⟩
  · rintro _ ⟨⟩
    exact Cartridge.solid_lasting.refill (h.solid c inside) blank
  · have ramSize : d.ramSize = c.ramSize := congrArg (fun c => c.ramSize) blank
    rw [← h.depth, inside]
    exact congrArg some (Prod.ext ramSize beyond)

theorem deep_invariant (depth : Option (Nat × Array UInt8)) : Invariant (Deep depth) where
  write h addr val :=
    h.map (fun solid => Cartridge.hear_deep solid addr val) (write_cart _ addr val)
  acknowledge h _ := h.congr rfl
  spoilOam h := h.congr rfl
  switchSpeed h := h.congr (switchSpeed_cart _)
  report h _ := h.congr rfl
  takeStall h := h.congr rfl
  step h cycles := h.congr (congrArg (fun held => held.2.1) (step_held _ cycles))

end Bus

namespace Console

variable {g g' : Console} {cart : Cartridge} {depth : Option (Nat × Array UInt8)}

/-- No action changes what lies behind the RAM. -/
theorem act_deep (h : g.Consistent) (deep : g.core.bus.Deep depth) (a : Action) :
    (g.act a).core.bus.Deep depth := by
  have inv := Bus.deep_invariant depth
  cases a with
  | turn => exact Core.turn_keeps inv deep
  | run cycles => exact Core.run_keeps inv deep cycles
  | frame =>
    have ran : (g.run cyclesPerFrame).1.core.bus.Deep depth :=
      Core.run_keeps inv deep cyclesPerFrame
    simp only [act, runFrame, countFrame]
    split
    · exact ran.map Cartridge.tickClock_deep rfl
    · exact ran
  | reset => exact deep.map (fun solid => ⟨Cartridge.solid_lasting.reset solid, rfl⟩) rfl
  | setButtons mask down => exact deep.congr rfl
  | loadSave data =>
    refine refused_or (P := fun g => g.core.bus.Deep depth) deep fun g' loaded => ?_
    obtain ⟨cart, taken, inside, read, rfl⟩ := loadSave_ok loaded
    have filled : Bus.Deep depth { g.core.bus with cart := some taken } :=
      deep.refill inside (loadSave_blank (h.mapped.cart cart inside) read)
        (Cartridge.loadSave_beyond read)
    split
    · exact filled.congr rfl
    · exact filled
  | setClock clock =>
    refine refused_or (P := fun g => g.core.bus.Deep depth) deep fun g' set => ?_
    obtain ⟨cart, inside, rfl⟩ := setClock_ok set
    exact deep.refill inside rfl rfl
  | write addr val => exact inv.write deep addr val

theorem perform_deep (h : g.Consistent) (deep : g.core.bus.Deep depth) (actions : List Action) :
    (g.perform actions).core.bus.Deep depth := by
  induction actions generalizing g with
  | nil => exact deep
  | cons a rest ih => exact ih (act_consistent h a).1 (act_deep h deep a)

/-! ## Selecting banks -/

/-- The console after some writes. -/
def select (g : Console) (writes : List (UInt16 × UInt8)) : Console :=
  g.perform (writes.map fun w => .write w.1 w.2)

theorem write_inside (inside : g.cart = some cart) (addr : UInt16) (val : UInt8) :
    (g.act (.write addr val)).cart = some (cart.hear addr val) :=
  (g.core.bus.write_cart addr val).trans (congrArg (Option.map _) inside)

/-- Control writes leave everything in the cartridge alone but the bank registers. -/
theorem select_cart {writes : List (UInt16 × UInt8)} (control : ∀ w ∈ writes, w.1 < 0x8000)
    (inside : g.cart = some cart) :
    ∃ now, (g.select writes).cart = some now ∧ now.unbanked = cart.unbanked := by
  induction writes generalizing g cart with
  | nil => exact ⟨cart, inside, rfl⟩
  | cons w rest ih =>
    rw [List.forall_mem_cons] at control
    have written : (g.act (.write w.1 w.2)).cart = some (cart.writeControl w.1 w.2) := by
      rw [write_inside inside, Cartridge.hear, if_pos control.1]
    obtain ⟨now, selected, same⟩ := ih control.2 written
    exact ⟨now, selected, same.trans (cart.writeControl_unbanked w.1 w.2)⟩

/-! ## One image -/

theorem read_cartType {rom : Rom} {header : Header} (read : Header.read rom = .ok header) :
    header.cartType = rom.byte 0x147 := by
  unfold Header.read at read
  split at read
  · cases read
  split at read
  · cases read
  · rename_i controller features typed
    cases romSize : Header.readRomSize rom with
    | error fault =>
      rw [romSize] at read
      cases read
    | ok romSize =>
      cases ramSize : Header.readRamSize controller features (rom.byte 0x149) with
      | error fault =>
        simp only [*] at read
        cases read
      | ok ramSize =>
        simp only [*] at read
        cases read
        rfl

/-- The type of a cartridge stands in its ROM. -/
theorem ofHeader_cartType {rom : Rom} {header : Header} (read : Header.read rom = .ok header) :
    header.cartType = (Cartridge.ofHeader header rom).rom.byte 0x147 := by
  obtain ⟨-, sized, -⟩ := Cartridge.read_ok read
  obtain ⟨⟨k, -, size⟩, whole⟩ := Cartridge.readRomSize_ok sized
  have long : 0x147 < header.romSize := by
    have pos := Nat.two_pow_pos k
    omega
  have here : 0x147 < (rom.extract 0 header.romSize).size := by
    rw [ByteArray.size_extract]
    omega
  rw [read_cartType read]
  change rom.byte 0x147 = Rom.byte (rom.extract 0 header.romSize) 0x147
  rw [Rom.byte, Rom.byte, dif_pos here, dif_pos (by omega)]
  exact (ByteArray.getElem_extract here).symm

/-- Cartridges with one ROM have one type, and so the same features. -/
theorem Labelled.features (h : g.Labelled) (h' : g'.Labelled) {cart' : Cartridge}
    (inside : g.cart = some cart) (inside' : g'.cart = some cart') (rom : cart'.rom = cart.rom) :
    cart'.features = cart.features := by
  refine (h.kind h' inside inside' ?_).2
  obtain ⟨header, image, -, read, same⟩ := h cart inside
  obtain ⟨header', image', -, read', same'⟩ := h' cart' inside'
  simp only [Cartridge.identity, Prod.mk.injEq] at same same'
  have first := ofHeader_cartType read
  have second := ofHeader_cartType read'
  rw [← same.1] at first
  rw [← same'.1, rom] at second
  exact (same'.2.1.trans second).trans (same.2.1.trans first).symm

/-- In the consoles that one image is in, there is as much RAM. -/
theorem Playing.same {rom : Rom} (h : g.Playing rom) (h' : g'.Playing rom) {cart' : Cartridge}
    (inside : g.cart = some cart) (inside' : g'.cart = some cart') :
    cart'.rom = cart.rom ∧ cart'.ramSize = cart.ramSize := by
  obtain ⟨header, begun⟩ := h.begun
  obtain ⟨header', begun'⟩ := h'.begun
  obtain rfl := Except.ok.inj (begun.read.symm.trans begun'.read)
  have same := (begun'.origin cart' inside').trans (begun.origin cart inside).symm
  exact ⟨congrArg (fun c => c.rom) same, congrArg (fun c => c.ramSize) same⟩

/-! ## Battery saves -/

theorem Reachable.solid (h : g.Reachable) : g.core.bus.Holds Solid :=
  h.holds Cartridge.solid_lasting Cartridge.ofRom_solid

/-- A save that the cartridge takes up is taken up by its console. -/
theorem loadSave_back {data : Array UInt8} {taken : Cartridge} (inside : g.cart = some cart)
    (loaded : cart.loadSave data = .ok taken) :
    ∃ back, g.loadSave data = .ok back ∧ back.cart = some taken := by
  simp only [loadSave, inside, loaded]
  refine ⟨_, rfl, ?_⟩
  split <;> rfl

/-- A console takes up its own save, and nothing changes. -/
theorem loadSave_own {data : Array UInt8} (inside : g.cart = some cart)
    (whole : cart.ramSize ≤ cart.ram.size) (saved : cart.saveData = .ok data) :
    g.loadSave data = .ok g := by
  have same : g.withCart cart = g := by
    have there : g.core.bus.cart = some cart := inside
    rw [withCart, ← there]
    rfl
  have full : cart.lacksClockBlock data = false := by
    obtain ⟨-, size, -⟩ := Cartridge.saveData_front whole saved
    rw [Cartridge.saveSize] at size
    rw [Cartridge.lacksClockBlock]
    cases saves : cart.hasSave with
    | false => rfl
    | true =>
      cases clock : cart.features.clock with
      | false => rfl
      | true =>
        rw [if_pos saves, if_pos clock] at size
        rw [size]
        exact decide_eq_false (Cartridge.ne_add_savedSize _).symm
  simp only [loadSave, inside, Cartridge.loadSave_saveData whole saved, full]
  exact congrArg Except.ok same

/-- The save of another cartridge with the same features is accepted if there is as much RAM. -/
theorem loadSave_iff {cart' : Cartridge} {data : Array UInt8} (solid : cart.Solid)
    (solid' : cart'.Solid) (inside' : g'.cart = some cart') (features : cart'.features = cart.features)
    (saved : cart.saveData = .ok data) :
    (∃ back, g'.loadSave data = .ok back) ↔ cart'.ramSize = cart.ramSize := by
  have inside := solid.coherent.ram.symm ▸ solid.coherent.inside
  obtain ⟨-, size, -⟩ := Cartridge.saveData_front inside saved
  obtain ⟨saves, accepted, -⟩ := Cartridge.loadSave_inv (Cartridge.loadSave_saveData inside saved)
  have saves' : cart'.hasSave = true := by
    rw [Cartridge.hasSave, features]
    exact saves
  constructor
  · rintro ⟨back, loaded⟩
    obtain ⟨_, taken, there, read, -⟩ := loadSave_ok loaded
    obtain rfl := Option.some.inj (inside'.symm.trans there)
    obtain ⟨-, accepted', -⟩ := Cartridge.loadSave_inv read
    rw [Cartridge.saveSize, if_pos saves] at size
    rw [Cartridge.acceptsSize_iff, size, features] at accepted'
    have table := solid.built.ramSize
    have table' := solid'.built.ramSize
    simp only [List.mem_cons, List.not_mem_nil, or_false] at table table'
    unfold Clock.savedSize at size accepted'
    split at accepted' <;> omega
  · intro ramSize
    have accepted' : cart'.acceptsSize data.size = true := by
      rw [Cartridge.acceptsSize, ramSize, features]
      exact accepted
    obtain ⟨back, loaded, -⟩ :=
      loadSave_back inside' (Cartridge.loadSave_accepted saves' accepted')
    exact ⟨back, loaded⟩

theorem Reachable.select (h : g.Reachable) (writes : List (UInt16 × UInt8)) :
    (g.select writes).Reachable := by
  induction writes generalizing g with
  | nil => exact h
  | cons w rest ih => exact ih (h.act (.write w.1 w.2))

/-- The console that takes up the save of another one shows what that one shows. -/
theorem read_loaded {cart' : Cartridge} {data : Array UInt8} {back : Console} (reached : g.Reachable)
    (reached' : g'.Reachable)
    (inside : g.cart = some cart) (inside' : g'.cart = some cart') (rom : cart'.rom = cart.rom)
    (saved : cart.saveData = .ok data) (loaded : g'.loadSave data = .ok back)
    {writes writes' : List (UInt16 × UInt8)} (control : ∀ w ∈ writes, w.1 < 0x8000)
    (control' : ∀ w ∈ writes', w.1 < 0x8000) {now now' : Cartridge}
    (selected : (g.select writes).cart = some now)
    (selected' : (back.select writes').cart = some now')
    (registers : now'.registers = now.registers) {addr : UInt16} (low : 0xA000 ≤ addr)
    (high : addr < 0xC000) :
    (back.select writes').core.bus.read addr = (g.select writes).core.bus.read addr := by
  have solid := reached.solid cart inside
  have features := reached.labelled.features reached'.labelled inside inside' rom
  have ramSize := (loadSave_iff solid (reached'.solid cart' inside') inside' features saved).mp
    ⟨back, loaded⟩
  have again : back.Reachable := by
    have act : g'.act (.loadSave data) = back := by
      rw [act, loaded]
      rfl
    rw [← act]
    exact reached'.act (.loadSave data)
  obtain ⟨_, taken, there, read, -⟩ := loadSave_ok loaded
  obtain rfl := Option.some.inj (inside'.symm.trans there)
  obtain ⟨back', loaded', filled⟩ := loadSave_back inside' read
  obtain rfl := Except.ok.inj (loaded.symm.trans loaded')
  obtain ⟨front, clock, sized⟩ := Cartridge.loadSave_same
    (solid.coherent.ram.symm ▸ solid.coherent.inside) ramSize saved read
  obtain ⟨one, there, same⟩ := select_cart control inside
  obtain rfl := Option.some.inj (selected.symm.trans there)
  obtain ⟨other, there', same'⟩ := select_cart control' filled
  obtain rfl := Option.some.inj (selected'.symm.trans there')
  have known := reached.select writes
  have known' := again.select writes'
  have holds (g : Console) (h : g.Reachable) : g.core.bus.Holds Cartridge.Built :=
    fun c inside => (h.solid c inside).built
  rw [Bus.read_window known.consistent.mapped (holds _ known) selected low high,
    Bus.read_window known'.consistent.mapped (holds _ known') selected' low high]
  -- control writes have left alone what was filled
  have size : now.ramSize = cart.ramSize := congrArg (fun c => c.ramSize) same
  have size' : now'.ramSize = cart.ramSize := (congrArg (fun c => c.ramSize) same' :).trans sized
  have ram : now.ram = cart.ram := congrArg (fun c => c.ram) same
  have ram' : now'.ram = taken.ram := congrArg (fun c => c.ram) same'
  have ticks : now.features = cart.features := congrArg (fun c => c.features) same
  have time : now.clock = cart.clock := congrArg (fun c => c.clock) same
  have time' : now'.clock = taken.clock := congrArg (fun c => c.clock) same'
  refine Cartridge.shows_congr (known.solid now selected) registers (size'.trans size.symm) ?_ ?_ addr
  · rw [size, ram, ram', front]
  · rw [ticks, time, time']
    exact clock

/-- Battery saves are complete. A console takes up exactly the saves of the right size, with the clock
or without it, and is left as it is by any other; its own save changes nothing, a save of the full
length comes out again, and a short one fills the RAM and leaves the clock. Another console with the
same ROM that takes up the save shows, at every address of the window, what the first one shows,
whichever banks either has selected meanwhile, as soon as the registers are the same. For no read
looks behind the RAM, and no action changes what lies there. -/
theorem battery_complete (reached : g.Reachable) (inside : g.cart = some cart)
    (saves : cart.hasSave = true) :
    (∀ data : Array UInt8,
      data.size = cart.ramSize ∨
        cart.features.clock = true ∧ data.size = cart.ramSize + Clock.savedSize →
      ∃ taken, cart.loadSave data = .ok taken ∧ (g.ask (.takeUp data)).2 = none ∧
        (g.ask (.takeUp data)).1.cart = some taken ∧
        (data.size = cart.saveSize → taken.saveData = .ok data) ∧
        (data.size = cart.ramSize →
          taken.ram.extract 0 cart.ramSize = data ∧ taken.clock = cart.clock)) ∧
    (∀ data : Array UInt8,
      ¬ (data.size = cart.ramSize ∨
        cart.features.clock = true ∧ data.size = cart.ramSize + Clock.savedSize) →
      g.ask (.takeUp data) = (g, some (.saveSizeMismatch cart.saveSize data.size))) ∧
    (∃ data, cart.saveData = .ok data ∧ cart.loadSave data = .ok cart ∧
      g.ask (.takeUp data) = (g, none)) ∧
    (∀ (g' : Console) (cart' : Cartridge) (data : Array UInt8), g'.Reachable →
      g'.cart = some cart' → cart'.rom = cart.rom → cart.saveData = .ok data →
      ((∃ back, g'.loadSave data = .ok back) ↔ cart'.ramSize = cart.ramSize) ∧
      (∀ rom, g.Playing rom → g'.Playing rom → cart'.ramSize = cart.ramSize) ∧
      ∀ back, g'.loadSave data = .ok back →
        ∀ writes writes' : List (UInt16 × UInt8),
        (∀ w ∈ writes, w.1 < 0x8000) → (∀ w ∈ writes', w.1 < 0x8000) →
        ∀ now now' : Cartridge, (g.select writes).cart = some now →
        (back.select writes').cart = some now' → now'.registers = now.registers →
        ∀ addr, 0xA000 ≤ addr → addr < 0xC000 →
          (back.select writes').core.bus.read addr = (g.select writes).core.bus.read addr) ∧
    (∀ ram : Array UInt8, ram.extract 0 cart.ramSize = cart.ram.extract 0 cart.ramSize →
      ∀ addr, (g.withCart { cart with ram := ram }).core.bus.read addr = g.core.bus.read addr) ∧
    ∀ actions, ∃ now, (g.perform actions).cart = some now ∧ now.ramSize = cart.ramSize ∧
      now.beyond = cart.beyond := by
  have solid := reached.solid cart inside
  have whole : cart.ramSize ≤ cart.ram.size := solid.coherent.ram.symm ▸ solid.coherent.inside
  refine ⟨fun data accepted => ?_, fun data refused => ?_, ?_,
    fun g' cart' data reached' inside' rom saved => ⟨?_, fun rom playing playing' => ?_,
      fun back loaded writes writes' control control' now now' selected selected' registers addr => ?_⟩,
    fun ram front addr => ?_, fun actions => ?_⟩
  · rw [← Cartridge.acceptsSize_iff] at accepted
    have loaded := Cartridge.loadSave_accepted saves accepted
    obtain ⟨back, taken, filled⟩ := loadSave_back inside loaded
    have result : Request.result g (.takeUp data) = .ok back := taken
    rw [ask_eq, result]
    exact ⟨_, loaded, rfl, filled, Cartridge.saveData_loadSave loaded,
      Cartridge.loadSave_short loaded⟩
  · rw [← Cartridge.acceptsSize_iff] at refused
    have fault : Request.result g (.takeUp data) =
        .error (.saveSizeMismatch cart.saveSize data.size) := by
      simp only [Request.result, loadSave, inside, Cartridge.loadSave_refused saves refused]
      rfl
    rw [ask_eq, fault]
  · have saved := Cartridge.saveData_ok saves
    have result : Request.result g (.takeUp _) = .ok g := loadSave_own inside whole saved
    refine ⟨_, saved, Cartridge.loadSave_saveData whole saved, ?_⟩
    rw [ask_eq, result]
  · exact loadSave_iff solid (reached'.solid cart' inside') inside'
      (reached.labelled.features reached'.labelled inside inside' rom) saved
  · exact (playing.same playing' inside inside').2
  · exact read_loaded reached reached' inside inside' rom saved loaded control control' selected
      selected' registers
  · exact Bus.read_front reached.consistent.mapped reached.solid inside front addr
  · have deep := perform_deep reached.consistent ⟨reached.solid, rfl⟩ actions
    have there : (g.perform actions).cart.map Cartridge.depth = some cart.depth :=
      deep.depth.trans (congrArg (Option.map Cartridge.depth) inside)
    obtain ⟨now, stays, same⟩ := Option.map_eq_some_iff.mp there
    exact ⟨now, stays, congrArg Prod.fst same, congrArg Prod.snd same⟩

/-- The header of a cartridge with a clock and 8 KiB of RAM, both kept by a battery. -/
def timedHeader : Header :=
  Cartridge.codedHeader 0x10 0 2 .mbc3 { ram := true, battery := true, clock := true } 0x2000

/-- The cartridge in its power-on state. -/
def timedCart : Cartridge :=
  (Cartridge.ofHeader timedHeader (Cartridge.coded 0x10 0 2)).reset

/-- The console that has just started it. -/
def timed : Console :=
  (Console.new {}).start timedHeader (Cartridge.ofHeader timedHeader (Cartridge.coded 0x10 0 2)) .dmg

theorem timed_inside : timed.cart = some timedCart := rfl

theorem timed_loaded : (Console.new {}).load (Cartridge.coded 0x10 0 2) = .ok timed := by
  have read : Header.read (Cartridge.coded 0x10 0 2) = .ok timedHeader :=
    Cartridge.coded_read (by decide) rfl rfl
  rw [load, read]
  rfl

theorem hear_enable {c : Cartridge} (same : c.registers = timedCart.registers) :
    (c.hear 0x0000 0x0A).registers = (.mbc3 true 0x08, 1, 0, true) := by
  have powerOn : c.registers = (.mbc3 true 0x08, 1, 0, false) := same
  simp only [Cartridge.registers, Prod.mk.injEq] at powerOn
  obtain ⟨mapper, romBank, ramBank, -⟩ := powerOn
  have heard : c.hear 0x0000 0x0A = c.writeMbc3 0x0000 0x0A := by
    change c.writeControl 0x0000 0x0A = _
    rw [Cartridge.writeControl, mapper]
  have enabled : c.writeMbc3 0x0000 0x0A = { c with ramEnabled := true } := rfl
  rw [heard, enabled]
  simp only [Cartridge.registers, mapper, romBank, ramBank]

/-- The same console, when it has written to its RAM. -/
def timedWritten : Console :=
  (timed.act (.write 0x0000 0x0A)).act (.write 0xA123 0x5C)

/-- It takes up no empty save. A new console of this kind takes up the save of the one that has written
to its RAM, and reads there what was written. -/
theorem battery_complete_timed :
    timed.ask (.takeUp #[]) = (timed, some (.saveSizeMismatch 0x2005 0)) ∧
    ∃ data back, timedWritten.saveData = .ok data ∧ timed.loadSave data = .ok back ∧
      (back.act (.write 0x0000 0x0A)).core.bus.read 0xA123 = 0x5C := by
  have reached : timed.Reachable := .load (.new {}) timed_loaded
  have inside' : timedWritten.cart = some (timedCart.hear 0x0000 0x0A |>.hear 0xA123 0x5C) :=
    write_inside (write_inside timed_inside _ _) _ _
  have reached' : timedWritten.Reachable := (reached.act _).act _
  have saves : (timedCart.hear 0x0000 0x0A |>.hear 0xA123 0x5C).hasSave = true := rfl
  obtain ⟨-, refused, -⟩ := battery_complete reached timed_inside rfl
  obtain ⟨-, -, ⟨data, saved, -⟩, other, -⟩ := battery_complete reached' inside' saves
  obtain ⟨accepted, -, reads⟩ := other timed _ data reached timed_inside rfl saved
  obtain ⟨back, loaded⟩ := accepted.mpr rfl
  obtain ⟨_, taken, there, read, -⟩ := loadSave_ok loaded
  obtain rfl := Option.some.inj (timed_inside.symm.trans there)
  obtain ⟨back', loaded', filled⟩ := loadSave_back timed_inside read
  obtain rfl := Except.ok.inj (loaded.symm.trans loaded')
  have enabled : (taken.hear 0x0000 0x0A).registers =
      (timedCart.hear 0x0000 0x0A |>.hear 0xA123 0x5C).registers := by
    have kept :=
      @Cartridge.hear_registers (timedCart.hear 0x0000 0x0A) 0xA123 (by decide) 0x5C
    rw [kept, hear_enable (Cartridge.loadSave_registers read), hear_enable (c := timedCart) rfl]
  have same := reads back loaded [] [(0x0000, 0x0A)] (List.forall_mem_nil _)
    (List.forall_mem_singleton.mpr (by decide)) _ _ inside' (write_inside filled _ _) enabled
    0xA123 (by decide) (by decide)
  have built := fun c inside => (reached'.solid c inside).built
  have written := @Bus.read_window _ _ 0xA123 reached'.consistent.mapped built inside'
    (by decide) (by decide)
  have solid : (timedCart.hear 0x0000 0x0A).Solid :=
    (reached.act _).solid _ (write_inside timed_inside _ _)
  have stored : (timedCart.hear 0x0000 0x0A |>.hear 0xA123 0x5C).shows 0xA123 = 0x5C :=
    Cartridge.writeRam_shows solid rfl Controller.noConfusion 0xA123 0x5C
  exact ⟨refused #[] (by decide), data, back, saved, loaded, same.trans (written.trans stored)⟩

end Console

end DotMatrix
