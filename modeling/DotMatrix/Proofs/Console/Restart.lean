import DotMatrix.Proofs.Console.Exchange
import DotMatrix.Proofs.Console.Inserted

/-!
# Starting again

A console that starts a cartridge forgets what it has been through: what it is then is decided by the
image, the settings, and what the host has attached. A reset starts the cartridge that is in, with
the contents of its RAM and its clock.

The devices are set up one by one, some new, some with the host's side of the old ones. Here both
operations are compared with the start of another console (`resetTo_congr`): it does not matter what
the two have been through, so long as their cartridges come from one image and either both have a
recorder or neither.

Results:
* `Cartridge.origin_lasting`: a cartridge in use stays one of its image.
* `resetTo_congr`, `start_congr`: two consoles that are reset, or start one cartridge.
* `Playing.begun`: what lasts in a console since its image was loaded.
* `load_again`, `Begun.reset_again`, `reset_reset`: loading, resetting, and resetting twice.
* **`start_again`**: loading and resetting forget.
-/

namespace DotMatrix

namespace Cartridge

/-- Cartridges that agree but for the contents of RAM and clock. -/
theorem eq_of_blank {c d : Cartridge} (same : c.blank = d.blank) :
    c = { d with ram := c.ram, clock := c.clock } :=
  congrArg (fun e : Cartridge => { e with ram := c.ram, clock := c.clock }) same

/-- What a reset makes of a cartridge, but for its contents. -/
def origin (c : Cartridge) : Cartridge :=
  c.reset.blank

/-- Whatever happens to a cartridge in use, a reset makes the same of it. -/
theorem origin_lasting (o : Cartridge) : Lasting fun c => c.origin = o where
  refill {c c'} h same := by
    have again : c'.blank.reset = c.blank.reset := congrArg reset same
    exact again.trans h
  select {c} h addr val := by
    have again := congrArg origin (c.writeControl_unbanked addr val)
    exact again.trans h
  reset h := h
  takeOver {live saved} h hs := by
    have rom : live.origin.rom = o.rom := congrArg Cartridge.rom h
    have again : ({ saved with rom := live.rom } : Cartridge).origin =
        { saved.origin with rom := live.origin.rom } := rfl
    exact again.trans (by rw [rom, hs])

end Cartridge

/-! ## What a reset depends on -/

namespace Sound

theorem setSampleRate_congr (s : Sound) {recorder : Option (Array Sample)}
    (same : recorder.isSome = s.recorder.isSome) (sampleRate samplePeriod rate : Nat) :
    setSampleRate { s with
        recorder := recorder, sampleRate := sampleRate, samplePeriod := samplePeriod } rate =
      { s.setSampleRate rate with recorder := recorder } := by
  simp only [setSampleRate, same]

theorem boot_adoptHost (u s t : Sound) : (u.adoptHost s).boot =
    { (u.adoptHost t).boot with
      recorder := s.recorder, sampleRate := s.sampleRate, samplePeriod := s.samplePeriod } := by
  unfold boot
  rfl

/-- A unit that is started depends on whether there is a recorder, and not on which. -/
theorem started_congr {s t : Sound} (recorder : s.recorder.isSome = t.recorder.isSome) (u : Sound)
    (rate : Nat) : ((u.adoptHost s).boot).setSampleRate rate =
      { ((u.adoptHost t).boot).setSampleRate rate with recorder := s.recorder } := by
  -- said as an equation, since the two are compared by their registers otherwise
  have there : (u.adoptHost t).boot.recorder = t.recorder := by
    unfold boot adoptHost
    rfl
  rw [← there] at recorder
  rw [boot_adoptHost u s t]
  exact setSampleRate_congr _ recorder s.sampleRate s.samplePeriod rate

end Sound

namespace Bus

/-- The bus with what the host has attached to another: the picture and its tint, the recorder, the
cable, the counts and the notices. -/
def attachedAs (b other : Bus) : Bus :=
  { b with
    video := { b.video with screen := other.video.screen, tint := other.video.tint }
    sound := { b.sound with recorder := other.sound.recorder }
    link := { b.link with cable := other.link.cable }
    hooks := other.hooks
    notices := other.notices }

theorem reset_slots (b : Bus) (model : Model) :
    (b.reset model).slots = (b.reset model).slotTable :=
  (remap_slotTable _).symm

/-- Two buses that are reset differ in what the host has attached and in the cartridge alone. -/
theorem reset_congr {b d : Bus} (cart : b.cart.map Cartridge.origin = d.cart.map Cartridge.origin)
    (model : Model) : b.reset model =
      { d.reset model with
        video := ((Video.unpowered model).adoptHost b.video).boot
        sound := ((Sound.unpowered model.isColour).adoptHost b.sound).boot
        link := { cable := b.link.cable }
        cart := b.cart.map Cartridge.reset
        hooks := b.hooks
        notices := b.notices } := by
  -- the slots are all that is made from the cartridge, and they show nothing of its contents
  have slots : (b.reset model).slots = (d.reset model).slots := by
    rw [reset_slots, reset_slots]
    refine slotTable_of rfl rfl rfl ?_
    simp only [reset, remap, Option.map_map]
    exact cart
  change { b.reset model with slots := (b.reset model).slots } = _
  rw [slots]
  rfl

end Bus

namespace Console

variable {c c' d : Console} {rom : Rom} {header : Header}

/-- Two consoles that are reset differ in what the host has attached and in the contents of the
cartridge alone. -/
theorem resetTo_congr (settings : c.settings = d.settings) (header : c.header = d.header)
    (recorder : c.core.bus.sound.recorder.isSome = d.core.bus.sound.recorder.isSome)
    (cart : c.cart.map Cartridge.origin = d.cart.map Cartridge.origin) (model : Model) :
    c.resetTo model = (d.resetTo model).onBus fun b =>
      { b.attachedAs c.core.bus with cart := c.cart.map Cartridge.reset } := by
  have bus := Bus.reset_congr (b := c.core.bus) (d := d.core.bus) cart model
  have sound := Sound.started_congr recorder (Sound.unpowered model.isColour) d.settings.sampleRate
  simp only [resetTo, applySettings, onVideo, onSound, onBus, bus, settings, header, sound]
  rfl

/-! ## Loading -/

/-- An image that is accepted is started. -/
theorem load_start {model : Model} (read : Header.read rom = .ok header)
    (selected : header.selectModel c.settings.model.forced = .ok model) :
    c.load rom = .ok (c.start header (Cartridge.ofHeader header rom) model) := by
  simp only [load, read, bind, Except.bind, selected]
  rfl

/-- The console with a cartridge put in, before it is started. -/
def seated (c : Console) (header : Header) (cart : Cartridge) (model : Model) : Console :=
  let notices := header.notices ++ [.running header.title model]
  { c.onBus fun b => (b.reportAll notices).insert cart with header := some header }

theorem start_eq (c : Console) (header : Header) (cart : Cartridge) (model : Model) :
    c.start header cart model = (c.seated header cart model).resetTo model := rfl

theorem seated_sound (c : Console) (header : Header) (cart : Cartridge) (model : Model) :
    (c.seated header cart model).core.bus.sound = c.core.bus.sound := rfl

/-- Nothing is attached or detached by a reset. -/
theorem resetTo_attachedAs (c : Console) (model : Model) (b : Bus) :
    b.attachedAs (c.resetTo model).core.bus = b.attachedAs c.core.bus := by
  have recorder := reset_recorder c.core.bus model
  have applied : b.attachedAs (c.resetTo model).core.bus =
      b.attachedAs (c.core.bus.reset model) := by
    simp only [resetTo, applySettings, onVideo, onSound, onBus]
    rfl
  rw [applied]
  simp only [Bus.attachedAs, recorder]
  rfl

/-- What a console keeps of its cartridge need not be said. -/
theorem onBus_cart (c : Console) (other : Bus) {cart : Option Cartridge} (inside : c.cart = cart) :
    (c.onBus fun b => { b.attachedAs other with cart := cart }) =
      c.onBus fun b => b.attachedAs other := by
  subst inside
  rfl

/-- Two consoles that start one cartridge differ in what the host has attached alone. -/
theorem start_congr (settings : c.settings = d.settings)
    (recorder : c.core.bus.sound.recorder.isSome = d.core.bus.sound.recorder.isSome)
    (header : Header) (cart : Cartridge) (model : Model) :
    c.start header cart model = (d.start header cart model).onBus fun b =>
      b.attachedAs (c.start header cart model).core.bus := by
  have restarted := resetTo_congr (c := c.seated header cart model)
    (d := d.seated header cart model) settings rfl
    (by rw [seated_sound, seated_sound, recorder]) rfl model
  simp only [start_eq, resetTo_attachedAs]
  exact restarted.trans (onBus_cart _ _ rfl)

/-- A snapshot does not hold what is attached. -/
theorem attachedAs_saveState (c : Console) (other : Bus) :
    (c.onBus fun b => b.attachedAs other).saveState = c.saveState := by
  rw [saveState, saveState, ← Snapshot.encode_stored, ← Snapshot.encode_stored c.core]
  rfl

/-! ## Resetting -/

/-- The consoles that an image is in: it has been loaded, whatever was before, and since then there
were actions, choices of the host, accesses past the console to the bus, and snapshots of such
consoles. -/
inductive Playing (rom : Rom) : Console → Prop where
  | load {c c' : Console} : c.load rom = .ok c' → Playing rom c'
  | act {c : Console} (a : Action) : Playing rom c → Playing rom (c.act a)
  | choose {c c' : Console} : Playing rom c → c.Chose c' → Playing rom c'
  | step {c : Console} (cycles : Nat) :
      Playing rom c → Playing rom (c.onBus fun b => b.step cycles)
  | switchSpeed {c : Console} : Playing rom c → Playing rom (c.onBus Bus.switchSpeed)
  | takeStall {c : Console} : Playing rom c → Playing rom (c.onBus Bus.takeStall)
  | spoilOam {c : Console} : Playing rom c → Playing rom (c.onVideo Video.spoilOam)
  | loadState {c saved c' : Console} : Playing rom c → Playing rom saved → saved.core.bus.Fits →
      c.loadState saved.saveState = .ok c' → Playing rom c'

/-- The image has been started, and its cartridge is still in. -/
structure Begun (rom : Rom) (header : Header) (c : Console) : Prop where
  consistent : c.Consistent
  read : Header.read rom = .ok header
  model : header.selectModel c.settings.model.forced = .ok c.model
  titled : c.header = some header
  cart : c.cart.isSome = true
  origin : c.core.bus.Holds fun cart => cart.origin = (Cartridge.ofHeader header rom).origin

theorem Kin.isSome (kin : c.Kin c') : c'.cart.isSome = c.cart.isSome := by
  have same := congrArg Option.isSome kin.cart
  simp only [Bus.fixed, Option.isSome_map] at same
  exact same

/-- What comes of a console with the same cartridge and the same choice of the model. -/
theorem Begun.keep (h : c.Begun rom header) (consistent : c'.Consistent)
    (choice : c'.settings.model = c.settings.model) (model : c'.model = c.model)
    (titled : c'.header = c.header) (cart : c'.cart.isSome = c.cart.isSome)
    (origin : c'.core.bus.Holds fun cart => cart.origin = (Cartridge.ofHeader header rom).origin) :
    c'.Begun rom header where
  consistent := consistent
  read := h.read
  model := by
    rw [choice, model]
    exact h.model
  titled := titled.trans h.titled
  cart := cart.trans h.cart
  origin := origin

/-- An operation of the bus alone. -/
theorem Begun.onBus (h : c.Begun rom header) {f : Bus → Bus}
    (kept : c.core.bus.Kept (f c.core.bus)) : (c.onBus f).Begun rom header := by
  obtain ⟨consistent, kin⟩ := h.consistent.onBus kept
  exact h.keep consistent rfl kin.model rfl kin.isSome
    (kept.holds (Cartridge.origin_lasting _) h.origin)

/-- What is started has begun. -/
theorem load_begun (loaded : c.load rom = .ok c') : ∃ header, c'.Begun rom header := by
  obtain ⟨header, model, read, selected, rfl⟩ := load_selected loaded
  refine ⟨header, load_consistent loaded, read, selected, rfl, rfl, ?_⟩
  exact start_holds (Cartridge.origin_lasting _) c rfl header model

theorem act_begun (h : c.Begun rom header) (a : Action) : (c.act a).Begun rom header := by
  obtain ⟨consistent, kin⟩ := act_consistent h.consistent a
  exact h.keep consistent (congrArg Settings.model kin.settings) kin.model (act_header c a)
    kin.isSome (act_holds (Cartridge.origin_lasting _) h.consistent h.origin a)

theorem Chose.begun (chose : c.Chose c') (h : c.Begun rom header) : c'.Begun rom header := by
  have consistent := chose.consistent h.consistent
  cases chose <;> exact h.keep consistent rfl rfl rfl rfl (h.origin.congr rfl)

/-- A snapshot of the same image leaves it in. -/
theorem loadState_begun {saved : Console} (h : c.Begun rom header) (hs : saved.Begun rom header)
    (fits : saved.core.bus.Fits) (loaded : c.loadState saved.saveState = .ok c') :
    c'.Begun rom header := by
  have consistent := loadState_consistent h.consistent hs.consistent fits loaded
  have origin := loadState_holds (Cartridge.origin_lasting _) h.origin hs.origin fits loaded
  obtain ⟨model, -, rfl⟩ := loadState_exchanged hs.consistent fits loaded
  have settings : (c.exchanged saved).settings = c.settings := by
    simp only [exchanged, applySettings, onVideo, onSound, onBus]
  have kept : (c.exchanged saved).model = saved.model := by
    simp only [exchanged, applySettings, onVideo, onSound, onBus]
    rfl
  obtain ⟨live, inside⟩ := Option.isSome_iff_exists.mp h.cart
  obtain ⟨old, there⟩ := Option.isSome_iff_exists.mp hs.cart
  refine h.keep consistent (congrArg Settings.model settings) (kept.trans model)
    (exchanged_header c saved) ?_ origin
  rw [exchanged_cart, inside, there]
  rfl

/-- In a console that is playing, the image has been started and is still in. -/
theorem Playing.begun (h : c.Playing rom) : ∃ header, c.Begun rom header := by
  induction h with
  | load loaded => exact load_begun loaded
  | act a _ ih =>
    obtain ⟨header, begun⟩ := ih
    exact ⟨header, act_begun begun a⟩
  | choose _ chose ih =>
    obtain ⟨header, begun⟩ := ih
    exact ⟨header, chose.begun begun⟩
  | step cycles _ ih =>
    obtain ⟨header, begun⟩ := ih
    exact ⟨header, begun.onBus (.same (Bus.step_layout _ cycles))⟩
  | switchSpeed _ ih =>
    obtain ⟨header, begun⟩ := ih
    exact ⟨header, begun.onBus (.same (Bus.switchSpeed_layout _))⟩
  | takeStall _ ih =>
    obtain ⟨header, begun⟩ := ih
    exact ⟨header, begun.onBus (.same rfl)⟩
  | spoilOam _ ih =>
    obtain ⟨header, begun⟩ := ih
    exact ⟨header, begun.onBus (.same (Bus.spoilOam_layout _))⟩
  | loadState _ _ fits loaded ih ihSaved =>
    obtain ⟨header, begun⟩ := ih
    obtain ⟨header', saved⟩ := ihSaved
    obtain rfl := Except.ok.inj (begun.read.symm.trans saved.read)
    exact ⟨header, loadState_begun begun saved fits loaded⟩

/-! ## Starting again -/

/-- What is loaded is what another console with the same settings would be, but for what the host has
attached. -/
theorem load_again (settings : c.settings = d.settings)
    (recorder : c.core.bus.sound.recorder.isSome = d.core.bus.sound.recorder.isSome)
    (loaded : c.load rom = .ok c') : ∃ d', d.load rom = .ok d' ∧
      c' = d'.onBus fun b => b.attachedAs c'.core.bus := by
  obtain ⟨header, model, read, selected, rfl⟩ := load_selected loaded
  rw [settings] at selected
  exact ⟨_, load_start read selected, start_congr settings recorder header _ model⟩

/-- What is reset is what the image would be if it were loaded again, but for the contents of the
cartridge and the notices. -/
theorem Begun.reset_again (h : c.Begun rom header) : ∃ again cart fresh,
    c.load rom = .ok again ∧ again.model = c.model ∧ c.cart = some cart ∧
      again.cart = some fresh ∧ c.reset = again.onBus fun b => { b with
        cart := some { fresh with ram := cart.ram, clock := cart.clock }
        notices := c.core.bus.notices } := by
  obtain ⟨cart, inside⟩ := Option.isSome_iff_exists.mp h.cart
  let made := Cartridge.ofHeader header rom
  have origin : cart.origin = made.origin := h.origin cart inside
  have same : cart.reset = { made.reset with ram := cart.ram, clock := cart.clock } :=
    Cartridge.eq_of_blank origin
  have origins : c.cart.map Cartridge.origin = some made.origin := by
    rw [inside, Option.map_some, origin]
  have restarted := resetTo_congr (c := c) (d := c.seated header made c.model) rfl h.titled
    (by rw [seated_sound]) origins c.model
  have attached : ((c.seated header made c.model).resetTo c.model).core.bus.attachedAs
      (c.seated header made c.model).core.bus =
        ((c.seated header made c.model).resetTo c.model).core.bus := by
    rw [← resetTo_attachedAs]
    rfl
  refine ⟨_, cart, made.reset, load_start h.read h.model, rfl, inside, rfl, ?_⟩
  rw [start_eq, reset, restarted, inside, Option.map_some, same]
  -- of what is attached, only the notices have changed while the cartridge was put in
  generalize (c.seated header made c.model).resetTo c.model = again at attached
  have noticed : again.core.bus.attachedAs c.core.bus =
      { again.core.bus with notices := c.core.bus.notices } := by
    rw [← attached]
    rfl
  simp only [Console.onBus, noticed]

/-- A second reset changes nothing. -/
theorem reset_reset (c : Console) : c.reset.reset = c.reset := by
  have model : c.reset.model = c.model := (reset_kin c).model
  have origins : c.reset.cart.map Cartridge.origin = c.cart.map Cartridge.origin := by
    change (c.cart.map Cartridge.reset).map Cartridge.origin = _
    rw [Option.map_map]
    rfl
  have settled : c.reset.cart.map Cartridge.reset = c.reset.cart := by
    change (c.cart.map Cartridge.reset).map Cartridge.reset = c.cart.map Cartridge.reset
    rw [Option.map_map]
    rfl
  have restarted := resetTo_congr (c := c.reset) (d := c) (reset_kin c).settings (act_header c .reset)
    (reset_kin c).recorder origins c.model
  rw [settled] at restarted
  rw [reset, model, restarted]
  exact onBus_cart c.reset c.reset.core.bus rfl

/-- **What is loaded forgets** what the console has been through: it is what a new console with the
same settings would be, with a recorder or without one, but for what the host has attached. What is
reset is what the image would be if it were loaded again, for the same model, with the RAM and the
clock of the cartridge; so a second reset changes nothing. -/
theorem start_again :
    (∀ {c c' : Console} {rom : Rom} (recorder : Option (Array Sample)),
      recorder.isSome = c.core.bus.sound.recorder.isSome → c.load rom = .ok c' →
      ∃ fresh, ((Console.new c.settings).setRecorder recorder c.settings.sampleRate).load rom =
          .ok fresh ∧
        c' = fresh.onBus (fun b => b.attachedAs c'.core.bus) ∧ c'.saveState = fresh.saveState) ∧
    (∀ {c : Console} {rom : Rom}, c.Playing rom → ∃ again cart fresh,
      c.load rom = .ok again ∧ again.model = c.model ∧ c.cart = some cart ∧
        again.cart = some fresh ∧ c.reset = again.onBus fun b => { b with
          cart := some { fresh with ram := cart.ram, clock := cart.clock }
          notices := c.core.bus.notices }) ∧
    ∀ c : Console, c.reset.reset = c.reset := by
  refine ⟨fun {c c' rom} recorder same loaded => ?_, fun {c rom} playing => ?_, reset_reset⟩
  · have settings : c.settings =
        ((Console.new c.settings).setRecorder recorder c.settings.sampleRate).settings := rfl
    have recorders : c.core.bus.sound.recorder.isSome =
        ((Console.new c.settings).setRecorder recorder
          c.settings.sampleRate).core.bus.sound.recorder.isSome := same.symm
    obtain ⟨fresh, accepted, equal⟩ := load_again settings recorders loaded
    refine ⟨fresh, accepted, equal, ?_⟩
    rw [equal]
    exact attachedAs_saveState fresh c'.core.bus
  · obtain ⟨header, begun⟩ := playing.begun
    exact begun.reset_again

/-- A game is played for a while, with its RAM enabled and object memory filled, and then another is
loaded, or the console is reset. -/
theorem start_again_played :
    ∃ c c' fresh again : Console,
      c.Playing (Cartridge.coded 6 0 0) ∧ c.load (Cartridge.coded 0x1B 0 1) = .ok c' ∧
        ((Console.new c.settings).setRecorder none c.settings.sampleRate).load
          (Cartridge.coded 0x1B 0 1) = .ok fresh ∧ c'.saveState = fresh.saveState ∧
        c.load (Cartridge.coded 6 0 0) = .ok again ∧ again.model = c.model ∧
        c.reset.frames = again.frames ∧ c.reset.reset = c.reset := by
  have first : Header.read (Cartridge.coded 6 0 0) =
      .ok (Cartridge.codedHeader 6 0 0 .mbc2 { ram := true, battery := true } 0x200) :=
    Cartridge.coded_read (by decide) rfl rfl
  have second : Header.read (Cartridge.coded 0x1B 0 1) =
      .ok (Cartridge.codedHeader 0x1B 0 1 .mbc5 { ram := true, battery := true } 0x800) :=
    Cartridge.coded_read (by decide) rfl rfl
  obtain ⟨start, loaded, settings, silent⟩ : ∃ start, (Console.new {}).load (Cartridge.coded 6 0 0) =
      .ok start ∧ start.settings = {} ∧ start.core.bus.sound.recorder.isSome = false :=
    ⟨_, load_start first rfl, rfl, rfl⟩
  let c := ((start.act (.write 0x0000 0x0A)).act (.write 0xFF46 0xC1)).act (.run 1000)
  have playing : c.Playing (Cartridge.coded 6 0 0) := (((Playing.load loaded).act _).act _).act _
  have kin := (perform_consistent (load_consistent loaded)
    [.write 0x0000 0x0A, .write 0xFF46 0xC1, .run 1000]).2
  have chosen : c.settings = {} := kin.settings.trans settings
  have recorders : (none : Option (Array Sample)).isSome = c.core.bus.sound.recorder.isSome :=
    (kin.recorder.trans silent).symm
  have other : ∃ c', c.load (Cartridge.coded 0x1B 0 1) = .ok c' :=
    ⟨_, load_start second (by rw [chosen]; rfl)⟩
  obtain ⟨c', other⟩ := other
  obtain ⟨forgets, resets, settles⟩ := start_again
  obtain ⟨fresh, accepted, -, same⟩ := forgets none recorders other
  obtain ⟨again, _, _, once, model, -, -, reset⟩ := resets playing
  refine ⟨c, c', fresh, again, playing, other, accepted, same, once, model, ?_, settles c⟩
  rw [reset]
  rfl

end Console

end DotMatrix
