import DotMatrix.Proofs.Console.Exchange

/-!
# Going back and playing on

A snapshot holds the machine, and neither the frames that the console has counted nor the cable. So
a console that goes back to a snapshot is the console that took it, but for these two.

Results:
* `restored`: what a console is that has gone back to a snapshot.
* **`replay_iff`**: going back and playing on is the same as playing on at once exactly when both
  keep the same time and their partners answer the same.
* `replay_late`: a console that goes back after one frame does not keep the same time.
-/

namespace DotMatrix

namespace Console

/-! ## Going back -/

/-- A cartridge takes over what it was at another time. -/
theorem takenOver_self {live saved : Option Cartridge}
    (same : live.map Cartridge.identity = saved.map Cartridge.identity) :
    Snapshot.takenOver live saved = saved ∧
      saved.map Cartridge.label = live.map Cartridge.label := by
  cases live <;> cases saved
  case none.none => exact ⟨rfl, rfl⟩
  case none.some => cases same
  case some.none => cases same
  case some.some l s =>
    simp only [Option.map_some, Option.some.injEq, Cartridge.identity, Prod.mk.injEq] at same
    obtain ⟨rom, cartType, -, romSize, -⟩ := same
    simp only [Snapshot.takenOver, Option.bind_some, Option.map_some, Cartridge.label, rom,
      cartType, romSize, and_self]

/-- The bus that `live` becomes when it goes back to `saved`. -/
def rejoined (live saved : Bus) : Bus :=
  ({ saved.stored with cart := saved.cart }.adoptHost live).remap

/-- A machine goes back to a snapshot that it has taken. -/
theorem restore_encode {live saved : Core} (mapped : saved.bus.Mapped) (fits : saved.bus.Fits)
    (model : saved.bus.model = live.bus.model)
    (cart : live.bus.cart.map Cartridge.identity = saved.bus.cart.map Cartridge.identity) :
    Snapshot.restore live (Snapshot.encode saved) =
      .ok { cpu := saved.cpu
            bus := (rejoined live.bus saved.bus).report (.stateRestored saved.cpu.pc) } := by
  obtain ⟨self, label⟩ := takenOver_self cart
  have rejoins : Snapshot.exchanged live.bus saved.bus = rejoined live.bus saved.bus := by
    rw [Snapshot.exchanged, self]
    rfl
  rw [Snapshot.restore_eq mapped fits, if_neg (not_not_intro model), if_pos label, rejoins]

/-- The picture unit that comes back, with what the host has chosen. -/
theorem video_back (v old : Video) :
    (((v.stored.adoptHost old).setPalette v.palette).setLayers v.layers).stored = v.stored := by
  simp only [Video.setLayers, Video.setPalette, Video.spoilColours, Video.adoptHost, Video.stored]

/-- The sound unit that comes back, without a recorder. -/
theorem sound_back {s old : Sound} (silent : s.listening = (false, 0, 0))
    (unheard : old.recorder = none) (rate : Nat) :
    ((s.stored.adoptHost old).setSampleRate rate).stored = s.stored := by
  simp only [Sound.listening, Prod.mk.injEq] at silent
  obtain ⟨-, period, cycles⟩ := silent
  rw [if_pos period] at cycles
  simp only [Sound.setSampleRate, Sound.adoptHost, Sound.stored, unheard, period, cycles]
  rfl

/-- The slots that come back. -/
theorem rejoined_slots (live saved : Bus) : (rejoined live saved).slots = saved.slotTable := by
  change Bus.slotTable (Bus.adoptHost { saved.stored with cart := saved.cart } live) = _
  exact Bus.slotTable_of rfl rfl rfl rfl

/-- A console that goes back to its own snapshot is what it was then, but for the frames that it has
counted and the cable. -/
theorem restored {live saved : Console} (taken : saved.Consistent) (kin : saved.Kin live)
    (unheard : saved.core.bus.sound.recorder = none) (fits : saved.core.bus.Fits) :
    ∃ back, live.loadState saved.saveState = .ok back ∧ back.frames = live.frames ∧
      back.core.bus.link.cable = live.core.bus.link.cable ∧
      (back.setCable none).Alike (saved.setCable none) := by
  let joined : Console :=
    { live with core :=
      { cpu := saved.core.cpu
        bus := (rejoined live.core.bus saved.core.bus).report (.stateRestored saved.core.cpu.pc) } }
  have bus := applySettings_bus joined
  refine ⟨joined.applySettings, ?_, ?_, ?_, ?_⟩
  · rw [loadState, saveState, restore_encode taken.mapped fits kin.model.symm kin.cart]
    rfl
  · simp only [applySettings, onVideo, onSound, onBus]
    rfl
  · rw [bus]
    rfl
  · obtain ⟨palette, layers⟩ := Prod.mk.inj taken.chosen
    have video := video_back saved.core.bus.video live.core.bus.video
    rw [palette, layers, ← kin.settings] at video
    have quiet : live.core.bus.sound.recorder = none := by
      have recorder := kin.recorder
      simp only [Bus.fixed, Sound.listening, unheard] at recorder
      simpa using recorder
    have sound := sound_back (taken.silent (by simp [Bus.fixed, Sound.listening, unheard])) quiet
      live.settings.sampleRate
    have slots := (rejoined_slots live.core.bus saved.core.bus).trans taken.mapped.slots.symm
    refine ⟨⟨?_, ?_⟩, ?_⟩
    · simp only [applySettings, onVideo, onSound, onBus, setCable]
      rfl
    · simp only [setCable, onBus, bus]
      exact ⟨rfl, rfl, rfl, rfl, rfl, ⟨rfl, rfl, rfl⟩, video, sound, rfl, rfl, rfl, rfl, rfl, rfl,
        rfl, slots⟩
    · simp only [applySettings, onVideo, onSound, onBus, setCable]
      exact kin.settings

/-- Whatever has happened to a console since it took a snapshot, it goes back to it, and keeps only
the frames that it has counted and its cable. What is played from there always gives the snapshots
that it would have given at once, exactly when both keep the same time and the partner at the cable
answers the same. -/
theorem replay_iff {g : Console} (reached : g.Reachable)
    (unheard : g.core.bus.sound.recorder = none) (fits : g.core.bus.Fits) (history : List Action) :
    ∃ back, (g.perform history).loadState g.saveState = .ok back ∧
      back.frames = (g.perform history).frames ∧
      back.core.bus.link.cable = (g.perform history).core.bus.link.cable ∧
      ((∀ future : List Action, (∀ a ∈ future, a.plays) →
          (back.perform future).saveState = (g.perform future).saveState) ↔
        back.InStep g ∧ back.core.bus.link.partner = g.core.bus.link.partner) := by
  obtain ⟨-, kin⟩ := perform_consistent reached.consistent history
  obtain ⟨back, loaded, frames, cable, unplugged⟩ := restored reached.consistent kin unheard fits
  refine ⟨back, loaded, frames, cable, ?_⟩
  constructor
  · intro same
    have partner := partner_of_same unplugged same
    exact ⟨inStep_of_same (alike_of_partner unplugged partner) same, partner⟩
  · rintro ⟨inStep, partner⟩ future plays
    have played := perform_alike (alike_of_partner unplugged partner) inStep plays
    exact Core.encode_alike played.core

/-- A console that sleeps goes back after one frame; all that is promised holds of it. -/
theorem replay_iff_sleeping :
    sleeping.Reachable ∧ sleeping.core.bus.sound.recorder = none ∧ sleeping.core.bus.Fits ∧
      ∃ back, (sleeping.perform [.frame]).loadState sleeping.saveState = .ok back ∧
        back.frames = (sleeping.perform [.frame]).frames ∧
        ((∀ future : List Action, (∀ a ∈ future, a.plays) →
            (back.perform future).saveState = (sleeping.perform future).saveState) ↔
          back.InStep sleeping ∧ back.core.bus.link.partner = sleeping.core.bus.link.partner) := by
  obtain ⟨back, loaded, frames, -, exact⟩ :=
    replay_iff sleeping_reachable sleeping_recorder sleeping_fits [.frame]
  exact ⟨sleeping_reachable, sleeping_recorder, sleeping_fits, back, loaded, frames, exact⟩

/-- A console with a clock on its cartridge goes back after one frame. What is played from there
does not give the snapshots that it would have given at once: its clock ticks a frame early. -/
theorem replay_late :
    sleeping.Reachable ∧ sleeping.clockRuns ∧ sleeping.core.bus.sound.recorder = none ∧
      ∃ back, (sleeping.perform [.frame]).loadState sleeping.saveState = .ok back ∧
        ¬ ∀ future : List Action, (∀ a ∈ future, a.plays) →
          (back.perform future).saveState = (sleeping.perform future).saveState := by
  obtain ⟨-, kin⟩ := perform_consistent sleeping_reachable.consistent [.frame]
  obtain ⟨back, loaded, frames, -, unplugged⟩ :=
    restored sleeping_reachable.consistent kin sleeping_recorder sleeping_fits
  refine ⟨sleeping_reachable, sleeping_clockRuns, sleeping_recorder, back, loaded, fun same => ?_⟩
  have alike := alike_of_partner unplugged (partner_of_same unplugged same)
  have inStep := inStep_of_same alike same
  have plays : ∀ a ∈ List.replicate 58 Action.frame, a.plays := by
    simp [Action.plays]
  have played := perform_alike alike inStep plays
  obtain ⟨-, later⟩ := perform_consistent sleeping_reachable.consistent (List.replicate 58 .frame)
  obtain ⟨sleepy, cart⟩ := frames_sleepy (n := 58) sleeping_sleepy (by decide)
  obtain ⟨-, kept⟩ := Core.run_sleepy sleepy (by decide : 0 < cyclesPerFrame)
  -- After 58 more frames the sixtieth is next for one of them, and the fifty-ninth for the other.
  have first : back.frames = 0 + 1 := frames.trans (perform_frames sleeping 1)
  rcases inStep _ plays with ends | still
  · rw [secondEnds, secondEnds, played.settings, later.settings, perform_frames, perform_frames,
      first] at ends
    revert ends
    decide
  · rw [clockRuns_alike (run_alike played cyclesPerFrame), run_clockRuns, kept, cart,
      sleeping_clockRuns] at still
    cases still

end Console

end DotMatrix
