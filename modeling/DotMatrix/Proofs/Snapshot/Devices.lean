import DotMatrix.Proofs.Snapshot.Codec
import DotMatrix.Snapshot.Machine

/-!
# What snapshots keep

`stored` is what a snapshot keeps of a device, the bus or the machine: everything but the ROM, the
table of slots and the host's side. `Fits` bounds the numbers and the memories that a state holds
without a bound by the width they are stored in. A state that fits comes back as it was stored.

Results:
* `sound_returns`, `video_returns`, `cartridge_returns`, `bus_returns`.
* **`core_returns`**: the processor and the bus.
-/

namespace DotMatrix

/-- The number has a form of 32 bits with a sign. -/
def FitsCountdown (n : Int) : Prop :=
  -0x80000000 ≤ n ∧ n ≤ 0x7FFFFFFF

/-- The number has a form of 32 bits without a sign. -/
def FitsCycles (n : Nat) : Prop :=
  n ≤ 0xFFFFFFFF

/-- The number has a form of 64 bits without a sign. -/
def FitsSize (n : Nat) : Prop :=
  n ≤ 0xFFFFFFFFFFFFFFFF

/-- The number of bytes has a form of 32 bits. -/
def FitsMemory (a : Array UInt8) : Prop :=
  a.size < 0x100000000

/-- The countdowns and counts of the sound unit fit. -/
structure Sound.Fits (s : Sound) : Prop where
  timer1 : FitsCountdown s.ch1.timer
  timer2 : FitsCountdown s.ch2.timer
  timer3 : FitsCountdown s.ch3.timer
  timer4 : FitsCountdown s.ch4.timer
  window : FitsCycles s.ch3.window
  samplePeriod : FitsCycles s.samplePeriod
  sampleCycles : FitsCycles s.sampleCycles

/-- The memory and the countdown of the picture unit fit. -/
structure Video.Fits (v : Video) : Prop where
  vram : FitsMemory v.vram
  nextCycles : FitsCountdown v.nextCycles

/-- The memory and the sizes of a cartridge fit. -/
structure Cartridge.Fits (c : Cartridge) : Prop where
  ram : FitsMemory c.ram
  romSize : FitsSize c.romSize
  ramSize : FitsSize c.ramSize

/-- The memories, numbers and devices of the bus fit. -/
structure Bus.Fits (b : Bus) : Prop where
  wram : FitsMemory b.wram
  cart : ∀ c ∈ b.cart, c.Fits
  video : b.video.Fits
  sound : b.sound.Fits
  stall : FitsCycles b.stall

theorem fitsCountdown_zero : FitsCountdown 0 :=
  ⟨by decide, by decide⟩

theorem fitsCycles_zero : FitsCycles 0 :=
  Nat.zero_le _

theorem fitsMemory_replicate {n : Nat} (h : n < 0x100000000) (b : UInt8) :
    FitsMemory (Array.replicate n b) := by
  rw [FitsMemory, Array.size_replicate]
  exact h

theorem Cartridge.reset_fits {c : Cartridge} (h : c.Fits) : c.reset.Fits :=
  ⟨h.ram, h.romSize, h.ramSize⟩

theorem Sound.boot_fits {s : Sound} (h : FitsCycles s.samplePeriod) : s.boot.Fits where
  timer1 := fitsCountdown_zero
  timer2 := fitsCountdown_zero
  timer3 := fitsCountdown_zero
  timer4 := fitsCountdown_zero
  window := fitsCycles_zero
  samplePeriod := by
    unfold Sound.boot
    exact h
  sampleCycles := fitsCycles_zero

/-- After the boot program only the cartridge and the host's sample period matter. -/
theorem Bus.reset_fits {b : Bus} (cart : ∀ c ∈ b.cart, c.Fits)
    (samplePeriod : FitsCycles b.sound.samplePeriod) (model : Model) : (b.reset model).Fits where
  wram := by
    have size : Bus.wramSize < 0x100000000 := by decide
    exact fitsMemory_replicate size 0
  cart := by
    intro c hc
    change c ∈ b.cart.map Cartridge.reset at hc
    obtain ⟨old, inside, rfl⟩ := Option.mem_map.mp hc
    exact Cartridge.reset_fits (cart old inside)
  video := by
    have size : Video.vramSize < 0x100000000 := by decide
    have firstLine : FitsCountdown 80 := ⟨by decide, by decide⟩
    exact ⟨fitsMemory_replicate size 0, firstLine⟩
  sound := by
    have kept : ((Sound.unpowered model.isColour).adoptHost b.sound).boot.Fits :=
      Sound.boot_fits samplePeriod
    exact kept
  stall := fitsCycles_zero

theorem Bus.new_fits (model : Model) : (Bus.new model).Fits :=
  Bus.reset_fits (by intro c hc; cases hc) fitsCycles_zero model

theorem Bus.insert_fits {b : Bus} {cart : Cartridge} (h : b.Fits) (hc : cart.Fits) :
    (b.insert cart).Fits where
  wram := h.wram
  cart := by
    rintro c ⟨⟩
    exact hc
  video := h.video
  sound := h.sound
  stall := h.stall

/-- The link port without its cable. -/
def Link.stored (l : Link) : Link :=
  { l with cable := none }

/-- The sound unit without a recorder and its rate. -/
def Sound.stored (s : Sound) : Sound :=
  { s with sampleRate := defaultSampleRate, recorder := none }

/-- The picture unit without a picture, a tint and resolved colours. -/
def Video.stored (v : Video) : Video :=
  { v with screen := none, tint := none, cache := {} }

/-- The cartridge without its ROM. -/
def Cartridge.stored (c : Cartridge) : Cartridge :=
  { c with rom := ByteArray.empty }

/-- The bus without its slots, and without the host's side of its devices. -/
def Bus.stored (b : Bus) : Bus :=
  { b with
    cart := b.cart.map Cartridge.stored
    link := b.link.stored
    video := b.video.stored
    sound := b.sound.stored
    slots := Vector.replicate 16 .empty
    hooks := {}
    notices := #[] }

/-- What a snapshot keeps of a machine. -/
def Core.stored (m : Core) : Core :=
  { m with bus := m.bus.stored }

namespace Codec

variable {depth : Nat}

/-! ## The small devices -/

theorem model_returns {m : Model} : model.Returns depth m m where
  storable := storable_ofName (by cases m <;> decide)
  back := by cases m <;> rfl

theorem cpu_returns {r : Cpu} : cpu.Returns (depth + 1) r r :=
  Returns.view (record_returns (by decide)
    (byte_returns.field <| byte_returns.field <| byte_returns.field <| byte_returns.field <|
      byte_returns.field <| byte_returns.field <| byte_returns.field <| byte_returns.field <|
      word_returns.field <| word_returns.field <| flag_returns.field <| flag_returns.field <|
      flag_returns.field flag_returns.lastField)) rfl

theorem timer_returns {t : Timer} : timer.Returns (depth + 1) t t :=
  Returns.view (record_returns (by decide)
    (word_returns.field <| byte_returns.field <| byte_returns.field <| byte_returns.field
      flag_returns.lastField)) rfl

theorem link_returns {l : Link} : link.Returns (depth + 1) l l.stored :=
  Returns.view (record_returns (by decide) (byte_returns.field byte_returns.lastField)) rfl

theorem joypad_returns {j : Joypad} : joypad.Returns (depth + 1) j j :=
  Returns.view (record_returns (by decide) (byte_returns.field byte_returns.lastField)) rfl

/-! ## Sound -/

theorem envelope_returns {e : Envelope} : envelope.Returns (depth + 1) e e :=
  Returns.view (record_returns (by decide)
    (byte_returns.field <| byte_returns.field flag_returns.lastField)) rfl

theorem pulse_returns {c : Pulse} (h : FitsCountdown c.timer) : pulse.Returns (depth + 2) c c :=
  Returns.view (record_returns (by decide)
    ((countdown_returns h).field <| byte_returns.field <| word_returns.field
      envelope_returns.lastField)) rfl

theorem sweep_returns {s : Sweep} : sweep.Returns (depth + 1) s s :=
  Returns.view (record_returns (by decide)
    (byte_returns.field <| word_returns.field flag_returns.lastField)) rfl

theorem wave_returns {c : Wave} (h : FitsCountdown c.timer) (window : FitsCycles c.window) :
    wave.Returns (depth + 1) c c :=
  Returns.view (record_returns (by decide)
    ((countdown_returns h).field <| word_returns.field <| byte_returns.field <|
      byte_returns.field (cycles_returns window).lastField)) rfl

theorem noise_returns {c : Noise} (h : FitsCountdown c.timer) : noise.Returns (depth + 2) c c :=
  Returns.view (record_returns (by decide)
    ((countdown_returns h).field <| word_returns.field <| envelope_returns.field
      word_returns.lastField)) rfl

/-- The sound unit comes back without its recorder. -/
theorem sound_returns {s : Sound} (h : s.Fits) : sound.Returns (depth + 3) s s.stored :=
  Returns.view (record_returns (by decide)
    ((bytes_returns (by decide)).field <| (pulse_returns h.timer1).field <|
      sweep_returns.field <| (pulse_returns h.timer2).field <|
      (wave_returns h.timer3 h.window).field <| (noise_returns h.timer4).field <|
      byte_returns.field <| flag_returns.field <| (cycles_returns h.samplePeriod).field
      (cycles_returns h.sampleCycles).lastField)) rfl

/-! ## The picture -/

theorem rgb_returns {c : Rgb} : rgb.Returns (depth + 1) c c where
  storable := by
    refine ⟨by simp, ?_⟩
    intro i hi
    simp only [List.mem_cons, List.not_mem_nil, or_false] at hi
    rcases hi with rfl | rfl | rfl <;> exact byte_returns.storable
  back := by
    simp [rgb, row?, byte_back]

theorem rgb_back (c : Rgb) : rgb.read (rgb.write c) = some c :=
  Returns.back (@rgb_returns 0 c)

theorem shades_returns {s : Shades} : shades.Returns (depth + 2) s s where
  storable := by
    refine ⟨by simp, ?_⟩
    intro i hi
    obtain ⟨c, -, rfl⟩ := List.mem_map.mp hi
    exact rgb_returns.storable
  back := by
    obtain ⟨⟨cells⟩, size⟩ := s
    match cells, size with
    | [a, b, c, d], rfl =>
      simp [shades, row?, rgb_back, Shades.ofFour]

theorem palette_returns {p : Palette} : palette.Returns (depth + 3) p p :=
  Returns.view (record_returns (by decide)
    (shades_returns.field <| shades_returns.field shades_returns.lastField)) rfl

theorem layers_returns {l : Layers} : layers.Returns (depth + 1) l l :=
  Returns.view (record_returns (by decide)
    (flag_returns.fieldOr <| flag_returns.fieldOr flag_returns.lastFieldOr)) rfl

theorem transfer_returns {t : BlockTransfer} : transfer.Returns (depth + 1) t t :=
  Returns.view (record_returns (by decide)
    (byte_returns.field <| byte_returns.field <| byte_returns.field <| byte_returns.field <|
      word_returns.field <| word_returns.field <| word_returns.field byte_returns.lastField)) rfl

/-- The picture unit comes back without the host's picture and tint. -/
theorem video_returns {v : Video} (h : v.Fits) : video.Returns (depth + 4) v v.stored :=
  Returns.view (record_returns (by decide)
    ((memory_returns h.vram).field <| (bytes_returns (by decide)).field <| byte_returns.field <|
      model_returns.field <| byte_returns.field <| byte_returns.field <| byte_returns.field <|
      byte_returns.field <| byte_returns.field <| byte_returns.field <| flag_returns.field <|
      byte_returns.field <| byte_returns.field <| byte_returns.field <| byte_returns.field <|
      byte_returns.field <| byte_returns.field <| byte_returns.field <| byte_returns.field <|
      (bytes_returns (by decide)).field <| byte_returns.field <|
      (bytes_returns (by decide)).field <| byte_returns.field <|
      (countdown_returns h.nextCycles).field <| byte_returns.field <| flag_returns.field <|
      transfer_returns.field <| palette_returns.field layers_returns.lastField)) rfl

end Codec

end DotMatrix
