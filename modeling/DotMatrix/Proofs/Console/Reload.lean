import DotMatrix.Proofs.Bus.Carry
import DotMatrix.Proofs.Bus.Sequencer
import DotMatrix.Proofs.Console.Replay

/-!
# Going back to where one is

A console that loads the snapshot it has just taken ought to be where it is. All that a snapshot
holds comes back, whatever the host has attached, but for one number: the settings are applied again,
and the rate of the sound begins a new sample. So the snapshot that is taken next is the same exactly
when a sample has just been handed over.

Results:
* `Reachable.paced`: the sample period of a console is the one that its settings ask for.
* **`reload_iff`**: a console loads its own snapshot; the next snapshot is the first one with no
  cycles counted for a sample, and the same exactly when none have been counted.
* `reload_other`: a console with a recorder that has made one turn has another snapshot afterwards.
-/

namespace DotMatrix

/-- The machine with no cycles counted for the next sample. -/
def Core.unsampled (m : Core) : Core :=
  { m with bus := { m.bus with sound := { m.bus.sound with sampleCycles := 0 } } }

/-- Of a bus whose slots are up to date only the counters of its devices may not fit. -/
theorem Bus.Mapped.fits {b : Bus} (h : b.Mapped)
    (due : FitsCountdown b.video.nextCycles) (sound : b.sound.Fits) (stall : FitsCycles b.stall) :
    b.Fits where
  wram := by
    rw [FitsMemory, h.wram]
    decide
  cart c inside := by
    have coherent := (h.cart c inside).1
    have banks := c.romBanks.toNat_lt
    have romSize := coherent.romSize
    have ramSize := coherent.inside
    have whole : Header.maxRamSize < 0x100000000 := by decide
    refine ⟨?_, ?_, ?_⟩
    · rw [FitsMemory, coherent.ram]
      exact whole
    · unfold FitsSize
      omega
    · unfold FitsSize
      omega
  video := by
    refine ⟨?_, due⟩
    rw [FitsMemory, h.vram]
    decide
  sound := sound
  stall := stall

namespace Console

variable {c c' : Console}

/-! ## The sample period -/

/-- The sample period is the one that the settings ask for. -/
def Paced (c : Console) : Prop :=
  c.core.bus.sound.samplePeriod = (c.core.bus.sound.setSampleRate c.settings.sampleRate).samplePeriod

theorem Paced.keep (h : c.Paced) (settings : c'.settings = c.settings)
    (listening : c'.core.bus.sound.listening = c.core.bus.sound.listening) : c'.Paced := by
  simp only [Sound.listening, Prod.mk.injEq] at listening
  obtain ⟨recorder, period, -⟩ := listening
  unfold Paced at *
  simp only [Sound.setSampleRate, recorder, period, settings] at *
  exact h

theorem Paced.fixed (h : c.Paced) (settings : c'.settings = c.settings)
    (fixed : c'.core.bus.fixed = c.core.bus.fixed) : c'.Paced :=
  h.keep settings (congrArg Bus.Fixed.sound fixed)

/-- Whatever was asked for before, the settings are applied. -/
theorem applySettings_paced (c : Console) : c.applySettings.Paced := by
  unfold Paced
  rw [applySettings_bus]
  simp only [applySettings, onVideo, onSound, onBus]
  rfl

theorem resetTo_paced (c : Console) (model : Model) : (c.resetTo model).Paced :=
  applySettings_paced { c with core := ⟨Cpu.boot model, c.core.bus.reset model⟩ }

theorem countFrame_sound (c : Console) : c.countFrame.core.bus.sound = c.core.bus.sound := by
  simp only [countFrame]
  split <;> rfl

/-- Every action leaves the sample period as the settings ask. -/
theorem act_paced (consistent : c.Consistent) (h : c.Paced) (a : Action) : (c.act a).Paced := by
  cases a with
  | turn => exact h.fixed rfl (Core.turn_settled consistent.mapped).fixed
  | run cycles => exact h.fixed rfl (Core.run_settled consistent.mapped cycles).fixed
  | frame =>
    have ran : (c.run cyclesPerFrame).1.Paced :=
      h.fixed rfl (Core.run_settled consistent.mapped cyclesPerFrame).fixed
    exact ran.keep (countFrame_settings _) (congrArg Sound.listening (countFrame_sound _))
  | reset => exact resetTo_paced c c.model
  | setButtons mask down => exact h
  | loadSave data =>
    refine refused_or h fun c' loaded => ?_
    obtain ⟨cart, taken, -, -, rfl⟩ := loadSave_ok loaded
    split <;> exact h
  | setClock clock =>
    refine refused_or h fun c' set => ?_
    obtain ⟨cart, -, rfl⟩ := setClock_ok set
    exact h
  | write addr val => exact h.fixed rfl (Bus.write_kept c.core.bus addr val).fixed

/-- The sample period of every console that can be reached is the one that its settings ask for. -/
theorem Reachable.paced (h : c.Reachable) : c.Paced := by
  induction h with
  | new settings => exact applySettings_paced _
  | load _ loaded _ =>
    obtain ⟨header, model, -, rfl⟩ := load_ok loaded
    exact resetTo_paced _ model
  | act a reached ih => exact act_paced reached.consistent ih a
  | setRegister _ _ _ ih | setPalette _ _ ih | setLayers _ _ ih | attend _ _ _ _ _ _ _ ih =>
    exact ih
  | setRecorder recorder rate _ _ | setSampleRate rate _ _ => rfl
  | @takeSamples c _ ih =>
    refine ih.keep rfl ?_
    simp only [onSound, onBus, Sound.takeSamples, Sound.listening, Option.isSome_map]
    rfl
  | loadState _ _ _ loaded _ _ =>
    obtain ⟨core, -, rfl⟩ := loadState_ok loaded
    exact applySettings_paced _

/-! ## The snapshot that is taken next -/

/-- The sound unit that comes back, with what the host has chosen. -/
theorem sound_again {s : Sound} {rate : Nat}
    (paced : s.samplePeriod = (s.setSampleRate rate).samplePeriod) :
    ((s.stored.adoptHost s).setSampleRate rate).stored =
      Sound.stored { s with sampleCycles := 0 } :=
  congrArg (fun period => Sound.stored { s with samplePeriod := period, sampleCycles := 0 })
    paced.symm

/-- What a snapshot holds of a bus that goes back to its own, but for what the settings change. -/
theorem rejoined_stored (b : Bus) (notice : Notice) (video : Video) (sound : Sound) :
    Bus.stored { (rejoined b b).report notice with video := video, sound := sound } =
      { b.stored with video := video.stored, sound := sound.stored } := by
  simp only [Bus.stored, rejoined, Bus.remap, Bus.adoptHost, Bus.report, Link.stored]

/-- A console loads its own snapshot, and all of it comes back but for the cycles that have been
counted for a sample. -/
theorem loadState_self (h : c.Consistent) (paced : c.Paced) (fits : c.core.bus.Fits) :
    ∃ back, c.loadState c.saveState = .ok back ∧ back.core.stored = c.core.unsampled.stored := by
  let b := c.core.bus
  let joined : Console :=
    { c with core :=
      { cpu := c.core.cpu, bus := (rejoined b b).report (.stateRestored c.core.cpu.pc) } }
  have bus := applySettings_bus joined
  obtain ⟨palette, layers⟩ := Prod.mk.inj h.chosen
  have video := video_back b.video b.video
  rw [palette, layers] at video
  have sound : ((b.sound.stored.adoptHost b.sound).setSampleRate c.settings.sampleRate).stored =
      Sound.stored { b.sound with sampleCycles := 0 } := sound_again paced
  have stored : joined.applySettings.core.bus.stored = c.core.unsampled.bus.stored := by
    rw [bus]
    refine (rejoined_stored b _ _ _).trans ?_
    exact congrArg₂ (fun video sound => ({ b.stored with video, sound } : Bus)) video sound
  refine ⟨joined.applySettings, ?_, ?_⟩
  · rw [loadState, saveState, restore_encode h.mapped fits rfl rfl]
    rfl
  · have cpu : joined.applySettings.core.cpu = c.core.cpu := by
      simp only [applySettings, onVideo, onSound, onBus]
      rfl
    rw [Core.stored, cpu, stored]
    rfl

theorem unsampled_fits {m : Core} (h : m.bus.Fits) : m.unsampled.bus.Fits :=
  ⟨h.wram, h.cart, h.video, { h.sound with sampleCycles := fitsCycles_zero }, h.stall⟩

theorem unsampled_stored_iff (m : Core) :
    m.unsampled.stored = m.stored ↔ m.bus.sound.sampleCycles = 0 := by
  constructor
  · intro same
    exact (congrArg (fun m : Core => m.bus.sound.sampleCycles) same).symm
  · intro zero
    have sound : ({ m.bus.sound with sampleCycles := 0 } : Sound) = m.bus.sound := by
      rw [← zero]
    rw [Core.unsampled, sound]

/-- What all but these cycles come back to has the snapshot without them. -/
theorem saveState_again {back : Console} (fits : c.core.bus.Fits)
    (stored : back.core.stored = c.core.unsampled.stored) :
    back.saveState = Snapshot.encode c.core.unsampled ∧
      (back.saveState = c.saveState ↔ c.core.bus.sound.sampleCycles = 0) := by
  have next : back.saveState = Snapshot.encode c.core.unsampled := by
    rw [saveState, ← Snapshot.encode_stored, stored, Snapshot.encode_stored]
  refine ⟨next, ?_⟩
  rw [next, saveState, Snapshot.encode_eq_iff (unsampled_fits fits) fits]
  exact unsampled_stored_iff c.core

/-- Without a recorder no cycles are counted for a sample. -/
theorem Consistent.uncounted (h : c.Consistent) (unheard : c.core.bus.sound.recorder = none) :
    c.core.bus.sound.sampleCycles = 0 := by
  have silent : c.core.bus.sound.listening = (false, 0, 0) :=
    h.silent (congrArg Option.isSome unheard)
  simp only [Sound.listening, Prod.mk.injEq] at silent
  obtain ⟨-, period, cycles⟩ := silent
  rwa [if_pos period] at cycles

/-- Whatever the host has attached to a console, it loads the snapshot that it has just taken, and
the snapshot that it takes next is the first one with no cycles counted for a sample. So the two are
the same exactly when none have been counted; without a recorder none ever are. -/
theorem reload_iff {c : Console} (reached : c.Reachable) (fits : c.core.bus.Fits) :
    ∃ back, c.loadState c.saveState = .ok back ∧
      back.saveState = Snapshot.encode c.core.unsampled ∧
      (back.saveState = c.saveState ↔ c.core.bus.sound.sampleCycles = 0) ∧
      (c.core.bus.sound.recorder = none → back.saveState = c.saveState) := by
  obtain ⟨back, loaded, stored⟩ := loadState_self reached.consistent reached.paced fits
  obtain ⟨next, same⟩ := saveState_again fits stored
  exact ⟨back, loaded, next, same, fun unheard =>
    same.mpr (reached.consistent.uncounted unheard)⟩

/-- A console without a recorder loads its own snapshot and takes the same one again. -/
theorem reload_iff_sleeping :
    sleeping.Reachable ∧ sleeping.core.bus.Fits ∧ ∃ back,
      sleeping.loadState sleeping.saveState = .ok back ∧ back.saveState = sleeping.saveState := by
  obtain ⟨back, loaded, -, -, unheard⟩ := reload_iff sleeping_reachable sleeping_fits
  exact ⟨sleeping_reachable, sleeping_fits, back, loaded, unheard sleeping_recorder⟩

/-! ## A console with a recorder -/

/-- A console that will go to sleep, with a recorder. -/
def recording : Console :=
  sleeping.setRecorder (some #[]) 48000

/-- Its sound unit after power-up. -/
def recordingSound : Sound :=
  (Sound.unpowered false).boot.setRecorder (some #[]) 48000

/-- After its first turn four cycles have been counted for a sample. -/
theorem recording_turn : (recording.act .turn).core.bus.sound = recordingSound.step 4 ∧
    (recording.act .turn).core.bus.video.nextCycles = 76 ∧
    (recording.act .turn).core.bus.stall = 0 := by
  let b : Bus := recording.core.bus.takeStall
  have opcode : recording.core.bus.read 0x0100 = 0x76 := sleeper_opcode rfl sleeping_cart
  have free : recording.core.bus.stall = 0 := rfl
  have key1 : b.key1 = 0 := rfl
  have slow : b.doubleSpeed = false := by
    rw [Bus.doubleSpeed, key1]
    decide
  have whole : b.baseCycles 4 = 4 := by rw [Bus.baseCycles, slow, if_neg Bool.false_ne_true]
  have still : ((b.timer.withRequests b.requests).step b.doubleSpeed 4).edges = 0 := by
    have timer : b.timer = { div := 0xABCC } := rfl
    have requests : b.requests = 1 := rfl
    rw [slow, timer, requests]
    decide
  have turned : (recording.act .turn).core.bus = b.step 4 := by
    have turned := Core.turn_halt_bus (m := recording.core) rfl rfl rfl rfl opcode
    rw [free] at turned
    exact turned
  have course : (b.ticked 4).video.course = Video.Course.booted.tick 4 := by
    rw [Bus.ticked_course, whole]
    rfl
  have quiet : b.step 4 = b.ticked 4 := by
    refine Bus.step_quiet ?_
    change (b.ticked 4).video.course.pending = false
    rw [course]
    decide
  have sound : (b.step 4).sound = recordingSound.step 4 := by
    rw [Bus.step_sound, whole, Bus.stepTimer, Bus.afterTimer_sound, still]
    rfl
  have due : (b.ticked 4).video.nextCycles = 76 := congrArg Video.Course.nextCycles course
  have stall : (b.ticked 4).stall = 0 := congrArg Bus.Haul.stall (Bus.ticked_haul b 4)
  rw [turned]
  exact ⟨sound, quiet ▸ due, quiet ▸ stall⟩

theorem recording_reachable : (recording.act .turn).Reachable :=
  (sleeping_reachable.setRecorder (some #[]) 48000).act .turn

theorem recording_fits : (recording.act .turn).core.bus.Fits := by
  obtain ⟨sound, due, stall⟩ := recording_turn
  refine recording_reachable.consistent.mapped.fits ?_ ?_ ?_
  · rw [due]
    exact ⟨by decide, by decide⟩
  · rw [sound]
    constructor
    all_goals
      simp only [FitsCountdown, FitsCycles]
      decide +kernel
  · rw [stall]
    exact fitsCycles_zero

/-- A console with a recorder that has made one turn loads its own snapshot, and the snapshot that it
takes next is another one. -/
theorem reload_other :
    let c := recording.act .turn
    c.Reachable ∧ c.core.bus.Fits ∧
      ∃ back, c.loadState c.saveState = .ok back ∧ back.saveState ≠ c.saveState := by
  intro c
  have reached : c.Reachable := recording_reachable
  have fits : c.core.bus.Fits := recording_fits
  obtain ⟨back, loaded, stored⟩ := loadState_self reached.consistent reached.paced fits
  refine ⟨reached, fits, back, loaded, fun same => ?_⟩
  have zero : c.core.bus.sound.sampleCycles = 0 := (saveState_again fits stored).2.mp same
  have counted : c.core.bus.sound = recordingSound.step 4 := recording_turn.1
  rw [counted] at zero
  revert zero
  decide +kernel

end Console

end DotMatrix
