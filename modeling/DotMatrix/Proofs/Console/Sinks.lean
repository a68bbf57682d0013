import DotMatrix.Proofs.Console.Sleep

/-!
# What a host looks and listens with

A host attaches a picture, a tint and a recorder to a console, and chooses the shades, the layers
and the rate of the sound. None of this is emulated, and none of it has an effect on what is: a
console plays on as it would with any other sinks, whether a line is drawn or not, and whether
samples are taken or not. What does have an effect is the ROM, and who drives the clock of the
cartridge, and a snapshot holds neither.

Results:
* `saveState_eq_iff`: a snapshot is what is emulated and the choices of the host.
* **`attended_unseen`**: a host may change its sinks at any time.
* **`sinks_unseen`**: consoles that emulate the same with one ROM, with partners that answer the
  same and clocks that keep the same time, emulate the same whatever is played.
* `emulated_not_enough`: they may part if the ROM is another, or who drives the clock.
-/

namespace DotMatrix

/-- What a host looks and listens with. -/
structure Sinks where
  screen : Option PixelBuffer
  tint : Option Tint
  palette : Palette
  layers : Layers
  recorder : Option (Array Sample)
  sampleRate : Nat

namespace Console

variable {scope : Scope} {c c' : Console}

/-- Two consoles have one snapshot exactly when they emulate the same and their hosts have chosen
the same. -/
theorem saveState_eq_iff (fits : c.core.bus.Fits) (fits' : c'.core.bus.Fits) :
    c.saveState = c'.saveState ↔
      c.core.emulated = c'.core.emulated ∧ c.core.choices = c'.core.choices :=
  (Snapshot.encode_eq_iff fits fits').trans Core.stored_eq_iff

/-- Whatever is played, the consoles emulate the same. -/
def EmulatesAs (c c' : Console) : Prop :=
  ∀ future : List Action, (∀ a ∈ future, a.plays) →
    (c.perform future).core.emulated = (c'.perform future).core.emulated

/-! ## Sinks that change -/

/-- The host attaches other sinks. -/
def attach (c : Console) (sinks : Sinks) : Console :=
  (((c.setPalette sinks.palette).setLayers sinks.layers).setRecorder sinks.recorder
    sinks.sampleRate).onVideo fun v => (v.setScreen sinks.screen).setTint sinks.tint

theorem Reachable.view (h : c.Reachable) (screen : Option PixelBuffer) (tint : Option Tint) :
    (c.onVideo fun v => (v.setScreen screen).setTint tint).Reachable := by
  have brought := h.attend screen tint { c.core.bus.video.cache with stale := {} }
    c.core.bus.link.cable c.core.bus.hooks c.core.bus.notices
  simp only [onBus] at brought
  simp only [onVideo, onBus, Video.setScreen, Video.setTint, Video.spoilColours]
  exact brought

theorem Reachable.attach (h : c.Reachable) (sinks : Sinks) : (c.attach sinks).Reachable :=
  (((h.setPalette sinks.palette).setLayers sinks.layers).setRecorder sinks.recorder
    sinks.sampleRate).view sinks.screen sinks.tint

/-- The console has the sinks that are attached. -/
theorem attach_devices (c : Console) (sinks : Sinks) :
    (c.attach sinks).core.bus.video.screen = sinks.screen ∧
      (c.attach sinks).core.bus.video.tint = sinks.tint ∧
      (c.attach sinks).core.bus.video.palette = sinks.palette ∧
      (c.attach sinks).core.bus.video.layers = sinks.layers ∧
      (c.attach sinks).core.bus.sound.recorder = sinks.recorder :=
  ⟨rfl, rfl, rfl, rfl, rfl⟩

/-- Two consoles that emulate the same, with clocks that go by the same frames. -/
structure Twin (c c' : Console) : Prop where
  core : c.core.Under (Bus.AlikeIn .emulation) c'.core
  drive : c.settings.clockDrive = c'.settings.clockDrive
  frames : c.frames = c'.frames

namespace Twin

theorem refl (c : Console) : c.Twin c :=
  ⟨⟨rfl, Bus.alike_of_within rfl rfl rfl rfl⟩, rfl, rfl⟩

theorem emulated (h : c.Twin c') : c.core.emulated = c'.core.emulated := by
  rw [← Core.within_emulation, Core.within_alike h.core, Core.within_emulation]

theorem inStep (h : c.Twin c') : c.InStep c' :=
  inStep_of_frames h.drive h.frames

theorem onVideo (h : c.Twin c') {f : Video → Video}
    (same : (f c.core.bus.video).within .emulation = c.core.bus.video.within .emulation) :
    (c.onVideo f).Twin c' :=
  ⟨⟨h.core.cpu, { h.core.bus with video := same.trans h.core.bus.video }⟩, h.drive, h.frames⟩

theorem onSound (h : c.Twin c') {f : Sound → Sound}
    (same : (f c.core.bus.sound).within .emulation = c.core.bus.sound.within .emulation) :
    (c.onSound f).Twin c' :=
  ⟨⟨h.core.cpu, { h.core.bus with sound := same.trans h.core.bus.sound }⟩, h.drive, h.frames⟩

theorem setPalette (h : c.Twin c') (palette : Palette) : (c.setPalette palette).Twin c' :=
  ⟨(h.onVideo (f := fun v => v.setPalette palette) rfl).core, h.drive, h.frames⟩

theorem setLayers (h : c.Twin c') (layers : Layers) : (c.setLayers layers).Twin c' :=
  ⟨(h.onVideo (f := fun v => v.setLayers layers) rfl).core, h.drive, h.frames⟩

theorem setRecorder (h : c.Twin c') (recorder : Option (Array Sample)) (rate : Nat) :
    (c.setRecorder recorder rate).Twin c' :=
  ⟨(h.onSound (f := fun s => s.setRecorder recorder rate) rfl).core, h.drive, h.frames⟩

/-- Other sinks are no part of what is emulated. -/
theorem attach (h : c.Twin c') (sinks : Sinks) : (c.attach sinks).Twin c' :=
  (((h.setPalette sinks.palette).setLayers sinks.layers).setRecorder sinks.recorder
    sinks.sampleRate).onVideo rfl

theorem act (h : c.Twin c') {a : Action} (plays : a.plays) : (c.act a).Twin (c'.act a) where
  core := act_under h.core plays fun _ => h.inStep [] (by simp)
  drive := by rw [act_settings c plays, act_settings c' plays, h.drive]
  frames := act_frames h.frames plays

end Twin

/-- The console after some actions, with other sinks for each of them. -/
def attended (c : Console) (session : List (Sinks × Action)) : Console :=
  session.foldl (fun c step => (c.attach step.1).act step.2) c

theorem attended_twin (h : c.Twin c') {session : List (Sinks × Action)}
    (plays : ∀ step ∈ session, step.2.plays) :
    (c.attended session).Twin (c'.perform (session.map Prod.snd)) := by
  induction session generalizing c c' with
  | nil => exact h
  | cons step rest ih =>
    obtain ⟨first, later⟩ := List.forall_mem_cons.mp plays
    exact ih ((h.attach step.1).act first) later

/-- A host may change its sinks at any time: what is emulated is what would be without it. -/
theorem attended_unseen (c : Console) {session : List (Sinks × Action)}
    (plays : ∀ step ∈ session, step.2.plays) :
    (c.attended session).core.emulated = (c.perform (session.map Prod.snd)).core.emulated :=
  (attended_twin (Twin.refl c) plays).emulated

/-! ## Sinks that differ -/

/-- A cartridge is known by its ROM and what a snapshot keeps of it. -/
theorem cart_of_stored {cart cart' : Option Cartridge}
    (stored : cart.map Cartridge.stored = cart'.map Cartridge.stored)
    (rom : cart.map Cartridge.rom = cart'.map Cartridge.rom) : cart = cart' := by
  cases cart <;> cases cart'
  case none.none => rfl
  case none.some => cases rom
  case some.none => cases rom
  case some.some d d' =>
    have kept : d.stored = d'.stored := Option.some.inj stored
    have image : d.rom = d'.rom := Option.some.inj rom
    have whole (d : Cartridge) : d = { d.stored with rom := d.rom } := rfl
    rw [whole d, whole d', kept, image]

/-- Consistent consoles of which the same counts are alike, with one ROM and partners that answer
the same. -/
theorem under_of_within (consistent : c.Consistent) (consistent' : c'.Consistent)
    (same : c.core.within scope = c'.core.within scope)
    (rom : c.cart.map Cartridge.rom = c'.cart.map Cartridge.rom)
    (partner : c.core.bus.link.partner = c'.core.bus.link.partner) :
    c.core.Under (Bus.AlikeIn scope) c'.core := by
  have bus : c.core.bus.within scope = c'.core.bus.within scope := congrArg Core.bus same
  have cart : c.core.bus.cart = c'.core.bus.cart := cart_of_stored (congrArg Bus.cart bus) rom
  have model : c.core.bus.model = c'.core.bus.model := (congrArg Bus.model bus :)
  have vbk : c.core.bus.video.vbk = c'.core.bus.video.vbk := (congrArg (fun b => b.video.vbk) bus :)
  have svbk : c.core.bus.svbk = c'.core.bus.svbk := (congrArg Bus.svbk bus :)
  have slots : c.core.bus.slotTable = c'.core.bus.slotTable :=
    Bus.slotTable_of model vbk svbk (congrArg (Option.map Cartridge.blank) cart)
  refine ⟨(congrArg Core.cpu same :), Bus.alike_of_within bus cart partner ?_⟩
  rw [consistent.mapped.slots, consistent'.mapped.slots, slots]

/-- Two consoles may differ in all that their hosts look and listen with. If they emulate the same
with one ROM, their partners answer the same and their clocks keep the same time, then they emulate
the same whatever is played. -/
theorem sinks_unseen (reached : c.Reachable) (reached' : c'.Reachable)
    (same : c.core.emulated = c'.core.emulated)
    (rom : c.cart.map Cartridge.rom = c'.cart.map Cartridge.rom)
    (partner : c.core.bus.link.partner = c'.core.bus.link.partner) (time : c.InStep c') :
    c.EmulatesAs c' := by
  intro future plays
  have alike : c.core.Under (Bus.AlikeIn .emulation) c'.core :=
    under_of_within reached.consistent reached'.consistent same rom partner
  exact Core.within_alike (perform_under alike time plays)

/-- A picture with a tint, a recorder, and other shades and layers. -/
def watching : Sinks where
  screen := some (PixelBuffer.blank 200 2)
  tint := some { convert := fun _ => 0 }
  palette := { bg := Shades.ofFour ⟨0, 0, 0⟩ ⟨85, 85, 85⟩ ⟨170, 170, 170⟩ ⟨255, 255, 255⟩ }
  layers := { bg := false, win := false }
  recorder := some #[]
  sampleRate := 44100

/-- A console that sleeps, without sinks and with some. -/
theorem sinks_unseen_watched :
    sleeping.Reachable ∧ (sleeping.attach watching).Reachable ∧
      sleeping.core.emulated = (sleeping.attach watching).core.emulated ∧
      sleeping.cart.map Cartridge.rom = (sleeping.attach watching).cart.map Cartridge.rom ∧
      sleeping.core.bus.link.partner = (sleeping.attach watching).core.bus.link.partner ∧
      sleeping.InStep (sleeping.attach watching) ∧
      (sleeping.attach watching).core.bus.video.screen = some (PixelBuffer.blank 200 2) ∧
      sleeping.EmulatesAs (sleeping.attach watching) := by
  have reached := sleeping_reachable
  have twin := (Twin.refl sleeping).attach watching
  have screen := (attach_devices sleeping watching).1
  generalize sleeping = c at reached twin screen ⊢
  have reached' := reached.attach watching
  generalize c.attach watching = c' at reached' twin screen ⊢
  have same := twin.emulated.symm
  have rom : c.cart.map Cartridge.rom = c'.cart.map Cartridge.rom :=
    congrArg (Option.map Cartridge.rom) twin.core.bus.cart.symm
  have partner := twin.core.bus.link.partner.symm
  have time : c.InStep c' := inStep_of_frames twin.drive.symm twin.frames.symm
  exact ⟨reached, reached', same, rom, partner, time, screen,
    sinks_unseen reached reached' same rom partner time⟩

/-! ## What is no sink -/

/-- Sleeping consoles part when a frame ends a second for one of them alone, if the clock runs. -/
theorem frame_parts {cart : Cartridge} (asleep : c.core.Sleepy) (asleep' : c'.core.Sleepy)
    (inside : c.core.bus.cart = some cart) (inside' : c'.core.bus.cart = some cart)
    (runs : cart.clockRuns = true) (ends : c.secondEnds = true) (goesOn : c'.secondEnds = false) :
    (c.perform [.frame]).core.emulated ≠ (c'.perform [.frame]).core.emulated := by
  have ticked := frame_cart asleep
  have kept := frame_cart asleep'
  rw [ends, if_pos rfl, inside, Option.map_some] at ticked
  rw [goesOn, if_neg (by simp), inside'] at kept
  intro same
  have carts : (c.act .frame).core.bus.cart.map Cartridge.stored =
      (c'.act .frame).core.bus.cart.map Cartridge.stored :=
    (congrArg (fun m : Core => m.bus.cart) same :)
  rw [ticked, kept] at carts
  exact Cartridge.tickClock_stored runs (Option.some.inj carts)

/-- The console that sleeps, whose host drives the clock of the cartridge. -/
def hosted : Console :=
  (Console.new { clockDrive := .host }).start sleeperHeader
    (Cartridge.ofHeader sleeperHeader sleeper) .dmg

theorem hosted_loaded : (Console.new { clockDrive := .host }).load sleeper = .ok hosted := by
  rw [load, sleeper_read]
  rfl

/-- After a second the clock has ticked for one of the consoles alone. -/
theorem hosted_parts : ¬ sleeping.EmulatesAs hosted := by
  intro same
  have plays : ∀ a ∈ List.replicate 59 Action.frame, a.plays := by simp [Action.plays]
  have second := same (List.replicate 59 .frame ++ [.frame])
    (List.forall_mem_append.mpr ⟨plays, by simp [Action.plays]⟩)
  rw [perform_append, perform_append] at second
  obtain ⟨asleep, cart⟩ := frames_sleepy (n := 59) sleeping_sleepy (by decide)
  obtain ⟨asleep', cart'⟩ := frames_sleepy (c := hosted) (n := 59) sleeping_sleepy (by decide)
  have ends : (sleeping.perform (List.replicate 59 .frame)).secondEnds = true := by
    have drive : sleeping.settings.clockDrive = .frames := rfl
    have start : sleeping.frames = 0 := rfl
    rw [secondEnds, perform_settings sleeping plays, perform_frames, drive, start]
    decide
  have goesOn : (hosted.perform (List.replicate 59 .frame)).secondEnds = false := by
    have drive : hosted.settings.clockDrive = .host := rfl
    rw [secondEnds, perform_settings hosted plays, drive]
    simp
  exact frame_parts asleep asleep' (cart.trans sleeping_cart) (cart'.trans sleeping_cart) rfl ends
    goesOn second

/-- Object memory is filled from the start of the ROM. -/
theorem fill_rom {cart : Cartridge} (slot : c.core.bus.slotAt 0 = ⟨.rom, 0, 0x0FFF⟩)
    (inside : c.core.bus.cart = some cart) :
    (c.perform [.write 0xFF46 0]).core.bus.video.oam[0] = cart.romByte 0 := by
  have written : c.core.bus.write 0xFF46 0 = c.core.bus.fillObjects 0 := rfl
  have first : (c.core.bus.fillObjects 0).video.oam[0] = c.core.bus.readSlot 0 :=
    Vector.getElem_ofFn _
  have filled : (c.perform [.write 0xFF46 0]).core.bus.video.oam[0] = c.core.bus.readSlot 0 := by
    rw [← first, ← written]
    rfl
  rw [filled, Bus.readSlot, slot]
  simp only [inside, Option.elim_some]
  rfl

/-- Consoles part when object memory is filled from ROMs that do not start alike. -/
theorem fill_parts {cart cart' : Cartridge} (slot : c.core.bus.slotAt 0 = ⟨.rom, 0, 0x0FFF⟩)
    (slot' : c'.core.bus.slotAt 0 = ⟨.rom, 0, 0x0FFF⟩) (inside : c.core.bus.cart = some cart)
    (inside' : c'.core.bus.cart = some cart') (differ : cart.romByte 0 ≠ cart'.romByte 0) :
    (c.perform [.write 0xFF46 0]).core.emulated ≠ (c'.perform [.write 0xFF46 0]).core.emulated := by
  intro same
  have objects : (c.perform [.write 0xFF46 0]).core.bus.video.oam =
      (c'.perform [.write 0xFF46 0]).core.bus.video.oam :=
    (congrArg (fun m : Core => m.bus.video.oam) same :)
  rw [← fill_rom slot inside, ← fill_rom slot' inside', objects] at differ
  exact differ rfl

/-- The bytes of the image of the console that sleeps, with another one at the start. -/
def markedByte (i : Nat) : UInt8 :=
  if i = 0 then 1 else sleeperByte i

/-- The image. -/
def marked : Rom :=
  ⟨Array.ofFn fun i : Fin 0x8000 => markedByte i⟩

theorem marked_size : marked.size = 0x8000 :=
  Array.size_ofFn

theorem marked_byte {i : Nat} (h : i < 0x8000) : marked.byte i = markedByte i :=
  Cartridge.byte_ofFn markedByte h

/-- It has the same header. -/
theorem marked_read : Header.read marked = .ok sleeperHeader := by
  rw [← sleeper_read]
  refine Cartridge.read_congr (marked_size.trans sleeper_size.symm) fun i low high => ?_
  have inside : i < 0x8000 := Nat.lt_trans high (by decide)
  rw [marked_byte inside, sleeper_byte inside, markedByte, if_neg (by omega)]

/-- The console that has just started it. -/
def marking : Console :=
  (Console.new {}).start sleeperHeader (Cartridge.ofHeader sleeperHeader marked) .dmg

theorem marking_loaded : (Console.new {}).load marked = .ok marking := by
  rw [load, marked_read]
  rfl

theorem marking_cart :
    marking.core.bus.cart = some (Cartridge.ofHeader sleeperHeader marked).reset := by
  rfl

/-- A console that has just been started shows no ROM in what it emulates. -/
theorem start_emulated (c : Console) (header : Header) (cart : Cartridge) (model : Model) :
    (c.start header cart model).core.emulated =
      (c.start header cart.stored model).core.emulated := rfl

theorem ofHeader_stored (header : Header) (rom rom' : Rom) :
    (Cartridge.ofHeader header rom).stored = (Cartridge.ofHeader header rom').stored := rfl

theorem marking_emulated : sleeping.core.emulated = marking.core.emulated := by
  have first := start_emulated (Console.new {}) sleeperHeader
    (Cartridge.ofHeader sleeperHeader sleeper) .dmg
  have second := start_emulated (Console.new {}) sleeperHeader
    (Cartridge.ofHeader sleeperHeader marked) .dmg
  rw [ofHeader_stored sleeperHeader sleeper marked, ← second] at first
  exact first

theorem marking_partner :
    sleeping.core.bus.link.partner = marking.core.bus.link.partner := by
  have plugged (c : Console) (header : Header) (cart cart' : Cartridge) (model : Model) :
      (c.start header cart model).core.bus.link = (c.start header cart' model).core.bus.link := rfl
  rw [sleeping, plugged, ← marking]

/-- Once object memory is filled from it, the ROM is seen. -/
theorem marking_parts : ¬ sleeping.EmulatesAs marking := by
  have parts : (sleeping.perform [.write 0xFF46 0]).core.emulated ≠
      (marking.perform [.write 0xFF46 0]).core.emulated := by
    refine fill_parts rfl rfl sleeping_cart marking_cart ?_
    rw [Cartridge.romByte, Cartridge.romByte, ofHeader_rom sleeper_size, ofHeader_rom marked_size,
      sleeper_byte (by decide), marked_byte (by decide)]
    decide
  intro same
  exact parts (same [.write 0xFF46 0] (by simp [Action.plays]))

/-- Neither who drives the clock of the cartridge nor the ROM is a sink: a snapshot holds neither,
and consoles that emulate the same part. -/
theorem emulated_not_enough :
    sleeping.Reachable ∧
      (hosted.Reachable ∧ sleeping.core.emulated = hosted.core.emulated ∧
        sleeping.core.bus.link.partner = hosted.core.bus.link.partner ∧
        ¬ sleeping.EmulatesAs hosted) ∧
      (marking.Reachable ∧ sleeping.core.emulated = marking.core.emulated ∧
        sleeping.core.bus.link.partner = marking.core.bus.link.partner ∧
        ¬ sleeping.EmulatesAs marking) := by
  have hosted_reachable : hosted.Reachable :=
    (Reachable.new { clockDrive := .host }).load hosted_loaded
  have marking_reachable : marking.Reachable := (Reachable.new {}).load marking_loaded
  exact ⟨sleeping_reachable, ⟨hosted_reachable, rfl, rfl, hosted_parts⟩,
    marking_reachable, marking_emulated, marking_partner, marking_parts⟩

end Console

end DotMatrix
