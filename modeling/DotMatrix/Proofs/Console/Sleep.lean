import DotMatrix.Proofs.Console.Play
import DotMatrix.Proofs.Cpu.Sleep

/-!
# Consoles asleep

A console whose processor sleeps plays its frames, and nothing happens to its cartridge but the
seconds of the clock. There is such a console: its program is a single HALT.

Results:
* `perform_frames`: frames are counted.
* **`frames_sleepy`**: within the first second a console that sleeps keeps its cartridge.
* `sleeping_reachable`, `sleeping_sleepy`, `sleeping_fits`: a console with a clock that sleeps.
-/

namespace DotMatrix

/-- A slot of ROM shows the byte of the cartridge. -/
theorem Bus.read_rom {b : Bus} {addr : UInt16} {base : Nat} {mask : UInt16} {cart : Cartridge}
    (low : addr < 0xFE00) (slot : b.slotAt addr = ⟨.rom, base, mask⟩)
    (inside : b.cart = some cart) :
    b.read addr = cart.romByte ((Slot.mk .rom base mask).offset addr) := by
  rw [Bus.read, if_pos low, Bus.readSlot, slot]
  simp only [inside, Option.elim_some]

namespace Console

/-! ## Frames -/

/-- The frames that have been counted. -/
theorem perform_frames (c : Console) (n : Nat) :
    (c.perform (List.replicate n .frame)).frames = c.frames + UInt32.ofNat n := by
  induction n generalizing c with
  | zero => exact (UInt32.add_zero c.frames).symm
  | succ n ih =>
    have counted : (c.act .frame).frames = c.frames + 1 :=
      countFrame_frames (c.run cyclesPerFrame).1
    have later : (c.perform (List.replicate (n + 1) .frame)).frames =
        (c.act .frame).frames + UInt32.ofNat n := ih (c.act .frame)
    rw [later, counted, UInt32.ofNat_add, UInt32.add_assoc, UInt32.add_comm 1]
    rfl

theorem frames_next {c : Console} (early : c.frames.toNat + 1 < 60) :
    (c.frames + 1).toNat = c.frames.toNat + 1 := by
  rw [UInt32.toNat_add]
  exact Nat.mod_eq_of_lt (Nat.lt_trans early (by decide))

/-- Within the first second the clock does not tick. -/
theorem secondEnds_early {c : Console} (early : c.frames.toNat + 1 < 60) :
    c.secondEnds = false := by
  have next : (c.frames + 1) % framesPerSecond ≠ 0 := by
    intro zero
    have count := congrArg UInt32.toNat zero
    rw [UInt32.toNat_mod, frames_next early] at count
    exact Nat.succ_ne_zero _ ((Nat.mod_eq_of_lt early).symm.trans count)
  simp [secondEnds, next]

theorem run_clockRuns (c : Console) (cycles : Nat) :
    (c.run cycles).1.clockRuns = (c.core.run cycles).1.bus.cart.any Cartridge.clockRuns := rfl

/-- In a frame of a console that is asleep only the end of a second changes the cartridge. -/
theorem frame_cart {c : Console} (h : c.core.Sleepy) :
    (c.act .frame).core.bus.cart =
      if c.secondEnds then c.core.bus.cart.map Cartridge.tickClock else c.core.bus.cart := by
  obtain ⟨-, cart⟩ := Core.run_sleepy h (by decide : 0 < cyclesPerFrame)
  change (c.run cyclesPerFrame).1.countFrame.core.bus.cart = _
  rw [countFrame_core, run_secondEnds, ← cart]
  split <;> rfl

/-- Within the first second a console that is asleep keeps its cartridge as it is. -/
theorem frames_sleepy {c : Console} (h : c.core.Sleepy) {n : Nat}
    (early : c.frames.toNat + n < 60) :
    (c.perform (List.replicate n .frame)).core.Sleepy ∧
      (c.perform (List.replicate n .frame)).core.bus.cart = c.core.bus.cart := by
  induction n generalizing c with
  | zero => exact ⟨h, rfl⟩
  | succ n ih =>
    obtain ⟨asleep, -⟩ := Core.run_sleepy h (by decide : 0 < cyclesPerFrame)
    have now : c.secondEnds = false := secondEnds_early (by omega)
    have core : (c.act .frame).core = (c.core.run cyclesPerFrame).1 := by
      change (c.run cyclesPerFrame).1.countFrame.core = _
      rw [countFrame_core, run_secondEnds, now]
      rfl
    have frames : (c.act .frame).frames.toNat = c.frames.toNat + 1 :=
      (congrArg UInt32.toNat (countFrame_frames (c.run cyclesPerFrame).1)).trans
        (frames_next (c := c) (by omega))
    obtain ⟨later, kept⟩ := @ih (c.act .frame) (core ▸ Core.turn_asleep asleep) (by omega)
    exact ⟨later, kept.trans ((frame_cart h).trans (if_neg (by simp [now])))⟩

/-! ## A console that sleeps -/

theorem setSampleRate_fits {s : Sound} (h : s.Fits) (unheard : s.recorder = none) (rate : Nat) :
    (s.setSampleRate rate).Fits := by
  have period : (s.setSampleRate rate).samplePeriod = 0 := by
    simp only [Sound.setSampleRate, unheard]
    rfl
  refine { h with samplePeriod := ?_, sampleCycles := fitsCycles_zero }
  rw [period]
  exact fitsCycles_zero

/-- Without a recorder, what the devices take over fits. -/
theorem applySettings_fits {c : Console} (h : c.core.bus.Fits)
    (unheard : c.core.bus.sound.recorder = none) : c.applySettings.core.bus.Fits := by
  rw [applySettings_bus]
  exact { h with
    video := ⟨h.video.vram, h.video.nextCycles⟩
    sound := setSampleRate_fits h.sound unheard _ }

/-- The bytes of an image for a cartridge with a clock, whose program goes to sleep at once. -/
def sleeperByte (i : Nat) : UInt8 :=
  if i = 0x100 then 0x76 else if i = 0x147 then 0x10 else 0

/-- The image. -/
def sleeper : Rom :=
  ⟨Array.ofFn fun i : Fin 0x8000 => sleeperByte i⟩

theorem sleeper_size : sleeper.size = 0x8000 :=
  Array.size_ofFn

theorem sleeper_byte {i : Nat} (h : i < 0x8000) : sleeper.byte i = sleeperByte i :=
  Cartridge.byte_ofFn sleeperByte h

/-- Its header. -/
def sleeperHeader : Header :=
  { title := Header.titleOf sleeper
    cartType := 0x10
    controller := .mbc3
    features := { ram := true, battery := true, clock := true }
    romSize := 0x8000
    ramSize := 0
    colour := .none
    sgb := false
    checksumOk := Header.checksumOf sleeper == 0 }

theorem sleeper_read : Header.read sleeper = .ok sleeperHeader := by
  have romSize : Header.readRomSize sleeper = .ok 0x8000 := by
    simp [Header.readRomSize, sleeper_byte, sleeperByte, sleeper_size]
  rw [Header.read, if_neg (by rw [sleeper_size]; decide)]
  simp (disch := decide) only [romSize, sleeper_byte]
  rfl

/-- The console that has just started it. -/
def sleeping : Console :=
  (Console.new {}).start sleeperHeader (Cartridge.ofHeader sleeperHeader sleeper) .dmg

theorem sleeping_loaded : (Console.new {}).load sleeper = .ok sleeping := by
  rw [load, sleeper_read]
  rfl

theorem sleeping_reachable : sleeping.Reachable :=
  (Reachable.new {}).load sleeping_loaded

theorem sleeping_cart :
    sleeping.core.bus.cart = some (Cartridge.ofHeader sleeperHeader sleeper).reset := by
  rfl

theorem sleeping_clockRuns : sleeping.core.bus.cart.any Cartridge.clockRuns = true := by
  rw [sleeping_cart]
  rfl

theorem sleeping_recorder : sleeping.core.bus.sound.recorder = none := by
  rfl

theorem ofHeader_fits {header : Header} (rom : Rom) (romSize : FitsSize header.romSize)
    (ramSize : FitsSize header.ramSize) : (Cartridge.ofHeader header rom).Fits := by
  have whole : Header.maxRamSize < 0x100000000 := by decide
  exact ⟨fitsMemory_replicate whole 0, romSize, ramSize⟩

/-- What has just been started fits, if there is no recorder. -/
theorem start_fits {c : Console} {cart : Cartridge} (fits : cart.Fits)
    (period : FitsCycles c.core.bus.sound.samplePeriod)
    (unheard : c.core.bus.sound.recorder = none) (header : Header) (model : Model) :
    (c.start header cart model).core.bus.Fits := by
  let b := (c.core.bus.reportAll (header.notices ++ [.running header.title model])).insert cart
  have inserted : ∀ c ∈ b.cart, c.Fits := by
    rintro _ ⟨⟩
    exact fits
  exact applySettings_fits (c := { c with core := ⟨Cpu.boot model, b.reset model⟩ })
    (Bus.reset_fits inserted period model) ((reset_recorder b model).trans unheard)

theorem sleeping_fits : sleeping.core.bus.Fits :=
  start_fits (ofHeader_fits sleeper (by unfold FitsSize; decide) (by unfold FitsSize; decide))
    fitsCycles_zero rfl sleeperHeader .dmg

/-- An image of the right size is the ROM of its cartridge. -/
theorem ofHeader_rom {header : Header} {rom : Rom} (whole : rom.size = header.romSize) :
    (Cartridge.ofHeader header rom).reset.rom = rom := by
  simp only [Cartridge.reset, Cartridge.ofHeader, ← whole]
  exact ByteArray.extract_zero_size

/-- Its program is a HALT. -/
theorem sleeper_opcode {b : Bus} (slot : b.slotAt 0x0100 = ⟨.rom, 0, 0x0FFF⟩)
    (inside : b.cart = some (Cartridge.ofHeader sleeperHeader sleeper).reset) :
    b.read 0x0100 = 0x76 := by
  have rom : (Cartridge.ofHeader sleeperHeader sleeper).reset.rom = sleeper :=
    ofHeader_rom sleeper_size
  have offset : (Slot.mk .rom 0 0x0FFF).offset 0x0100 = 0x0100 := rfl
  rw [Bus.read_rom (by decide) slot inside, offset, Cartridge.romByte, rom]
  exact sleeper_byte (by decide)

/-- So the console goes to sleep at once. -/
theorem sleeping_sleepy : sleeping.core.Sleepy :=
  Core.turn_halt rfl rfl rfl rfl (sleeper_opcode rfl sleeping_cart)

end Console

end DotMatrix
