import DotMatrix.Proofs.Bus.Course
import DotMatrix.Proofs.Console.Reachable
import DotMatrix.Proofs.Video.Marks

/-!
# The colours of a console

Whatever a console does to its picture unit is among what may happen to a unit: the writes of the
program, time, transfers, resets, snapshots of any origin, and the choices of the host.

Results:
* `write_used`, `advanceVideo_used`, **`used_invariant`**: what the processor does through the bus.
* `act_used`, `loadState_used`, **`Viewed.used`**: what happens to a console.
* **`Viewed.line_anew`**: whenever a console draws a line, it reads the colours made from scratch.
-/

namespace DotMatrix

open Video (Used)

theorem Video.Used.spoilOam {v : Video} (h : v.Used) : v.spoilOam.Used := by
  unfold Video.spoilOam
  split
  · exact h
  · exact h.act (.memory v.vram _ v.dma v.transfer)

namespace Bus

variable {b : Bus}

theorem write_used (h : b.video.Used) (addr : UInt16) (val : UInt8) :
    (b.write addr val).video.Used := by
  have register : (b.writeVideo addr val).video.Used := h.act (.write b.requests addr val)
  have wrote := write_wrote b addr val
  generalize b.write addr val = b' at wrote ⊢
  cases wrote with
  | nothing | cartRam | wram | hram | enables | joypad | sound | speed | undocumented | control
  | workBank | link | requests => exact h
  | timer => exact (afterTimer_video b _).symm ▸ h
  | vram place => exact h.act (.memory _ b.video.oam b.video.dma b.video.transfer)
  | oam place => exact h.act (.memory b.video.vram _ b.video.dma b.video.transfer)
  | objects => exact h.act (.memory b.video.vram _ val b.video.transfer)
  | picture | screenOff | videoBank => exact register
  | transfer =>
    obtain ⟨stall, notices, vram, transfer, -, filled⟩ := writeTransfer_fills b val
    rw [filled]
    exact h.act (.memory vram b.video.oam b.video.dma transfer)

/-- One step of the frame. -/
theorem advanceVideo_used (h : b.video.Used) : b.advanceVideo.video.Used := by
  have advanced : (b.video.withRequests b.requests).advance.1.video.Used :=
    h.act (.advance b.requests)
  unfold advanceVideo onEvent
  simp only
  split
  · exact advanced
  · unfold endLine
    split
    · obtain ⟨vram, -, filled⟩ := transferBlock_fills
        { b with
          video := (b.video.withRequests b.requests).advance.1.video
          requests := (b.video.withRequests b.requests).advance.1.requests }
      rw [filled]
      exact advanced.act (.memory vram _ _ _)
    · exact advanced
  · exact advanced

/-- The steps of the frame in the course of a step of the bus. -/
theorem during_used (h : b.video.Used) (cycles k : Nat) : (b.during cycles k).video.Used := by
  induction k with
  | zero =>
    have ticked : (b.ticked cycles).video = b.video.tick (b.baseCycles cycles) :=
      congrArg (fun v : Video => v.tick _) (stepTimer_video b cycles)
    exact ticked.symm ▸ h.act (.tick _)
  | succ k ih =>
    rw [during_succ]
    exact advanceVideo_used ih

/-- Whatever the processor does to a bus. -/
theorem used_invariant : Invariant fun b => b.video.Used where
  write h addr val := write_used h addr val
  acknowledge h _ := h
  spoilOam h := h.spoilOam
  switchSpeed h := (afterTimer_video _ _).symm ▸ h
  report h _ := h
  takeStall h := h
  step {b} h cycles := by
    obtain ⟨n, stepped, -⟩ := step_during b cycles
    rw [stepped]
    exact during_used h cycles n

end Bus

namespace Console

variable {c c' : Console}

/-- The devices take over the settings. -/
theorem applySettings_used (h : c.core.bus.video.Used) : c.applySettings.core.bus.video.Used :=
  (h.act (.setPalette _)).act (.setLayers _)

theorem resetTo_used (h : c.core.bus.video.Used) (model : Model) :
    (c.resetTo model).core.bus.video.Used :=
  applySettings_used (c := { c with core := ⟨Cpu.boot model, c.core.bus.reset model⟩ })
    (h.act (.reset model))

theorem act_used (h : c.core.bus.video.Used) (a : Action) : (c.act a).core.bus.video.Used := by
  cases a with
  | turn => exact Core.turn_keeps Bus.used_invariant h
  | run cycles => exact Core.run_keeps Bus.used_invariant h cycles
  | frame =>
    have ran : (c.run cyclesPerFrame).1.core.bus.video.Used :=
      Core.run_keeps Bus.used_invariant h cyclesPerFrame
    simp only [act, runFrame, countFrame]
    split <;> exact ran
  | reset => exact resetTo_used h c.model
  | setButtons mask down => exact h
  | loadSave data =>
    refine refused_or (P := fun c => c.core.bus.video.Used) h fun c' loaded => ?_
    obtain ⟨cart, taken, -, -, rfl⟩ := loadSave_ok loaded
    split <;> exact h
  | setClock clock =>
    refine refused_or (P := fun c => c.core.bus.video.Used) h fun c' set => ?_
    obtain ⟨cart, -, rfl⟩ := setClock_ok set
    exact h
  | write addr val => exact Bus.write_used h addr val

theorem load_used {rom : Rom} (h : c.core.bus.video.Used) (loaded : c.load rom = .ok c') :
    c'.core.bus.video.Used := by
  obtain ⟨header, model, -, rfl⟩ := load_ok loaded
  exact resetTo_used h model

/-- A snapshot brings a picture unit, which takes over the host's side of the present one. -/
theorem restore_video {live core : Core} {data : List UInt8}
    (restored : Snapshot.restore live data = .ok core) :
    ∃ saved : Video, core.bus.video = saved.adoptHost live.bus.video := by
  unfold Snapshot.restore at restored
  cases decoded : Snapshot.decode data with
  | error fault =>
    rw [decoded] at restored
    cases restored
  | ok saved =>
    rw [decoded] at restored
    change (Snapshot.joinBus live.bus saved.bus).bind _ = _ at restored
    cases joined : Snapshot.joinBus live.bus saved.bus with
    | error fault =>
      rw [joined] at restored
      cases restored
    | ok bus =>
      rw [joined] at restored
      cases restored
      obtain ⟨-, -, cart, -, rfl⟩ := Snapshot.joinBus_ok joined
      exact ⟨saved.bus.video, rfl⟩

theorem loadState_used {data : List UInt8} (h : c.core.bus.video.Used)
    (loaded : c.loadState data = .ok c') : c'.core.bus.video.Used := by
  obtain ⟨core, restored, rfl⟩ := loadState_ok loaded
  obtain ⟨saved, video⟩ := restore_video restored
  exact applySettings_used (c := { c with core := core }) (video.symm ▸ h.act (.restore saved))

/-- The consoles that come about from power-up, with anything that has to do with the picture. -/
inductive Viewed : Console → Prop where
  | new (settings : Settings) : Viewed (Console.new settings)
  | load {c c' : Console} {rom : Rom} : Viewed c → c.load rom = .ok c' → Viewed c'
  | act {c : Console} (a : Action) : Viewed c → Viewed (c.act a)
  | loadState {c c' : Console} {data : List UInt8} :
      Viewed c → c.loadState data = .ok c' → Viewed c'
  | setPalette {c : Console} (palette : Palette) : Viewed c → Viewed (c.setPalette palette)
  | setLayers {c : Console} (layers : Layers) : Viewed c → Viewed (c.setLayers layers)
  | setScreen {c : Console} (screen : PixelBuffer) : Viewed c → Viewed (c.setScreen screen)
  | takeScreen {c : Console} : Viewed c → Viewed c.takeScreen
  | setTint {c : Console} (tint : Option Tint) : Viewed c → Viewed (c.setTint tint)
  | takeCalls {c : Console} : Viewed c → Viewed (c.onVideo fun v => v.takeCalls.2)
  /-- What leaves the picture unit alone. -/
  | aside {c c' : Console} : Viewed c → c'.core.bus.video = c.core.bus.video → Viewed c'

/-- The picture unit of a console is used as any unit may be. -/
theorem Viewed.used (h : c.Viewed) : c.core.bus.video.Used := by
  induction h with
  | new settings =>
    have booted : (Bus.new (settings.model.forced.getD .dmg)).video.Used :=
      (Used.new _).act (.reset _)
    exact applySettings_used (c := ⟨⟨Cpu.boot _, Bus.new _⟩, settings, none, 0⟩) booted
  | load _ loaded ih => exact load_used ih loaded
  | act a _ ih => exact act_used ih a
  | loadState _ loaded ih => exact loadState_used ih loaded
  | setPalette palette _ ih => exact ih.act (.setPalette palette)
  | setLayers layers _ ih => exact ih.act (.setLayers layers)
  | setScreen screen _ ih => exact ih.act (.setScreen (some screen))
  | takeScreen _ ih => exact ih.act .takeScreen
  | setTint tint _ ih => exact ih.act (.setTint tint)
  | takeCalls _ ih => exact ih.act .takeCalls
  | aside _ same ih => exact same.symm ▸ ih

/-- Whenever a console draws a line, in the course of a step of its bus, every colour that it reads
is the one made from scratch. -/
theorem Viewed.line_anew (h : c.Viewed) (cycles k : Nat)
    (attached : (c.core.bus.during cycles k).video.screen.isSome = true) :
    let drawing := (c.core.bus.during cycles k).video.enter Video.hblankMode 204
    drawing.refreshColours.ReadsAnew drawing :=
  ((Bus.during_used h.used cycles k).act (.enter _ _)).ready attached |>.readsAnew

end Console
end DotMatrix
