import DotMatrix.Proofs.Bus.Layout
import DotMatrix.Proofs.Cpu.Simulation
import DotMatrix.Proofs.Video.Stored

/-!
# Buses that differ for the host alone

Two buses are alike when they differ in nothing but what belongs to the host: the picture and its
colours, the recorder, the notices and counts, and how the partner at the cable came to be what it
is; and where only the emulation counts, the shades, the layers and the sampler as well. Whatever
happens to both of them, they stay alike, and they look the same from inside.

Results:
* `AlikeIn.read`: a read gives the same on both.
* **`write_alike`**, **`step_alike`**: writes and time leave them alike.
* **`alike_simulation`**: so does the processor.
* `AlikeIn.within`: the same counts of both.
-/

namespace DotMatrix

/-- What the partner at the cable will answer, by the bytes that are sent from now on. -/
def Link.partner (l : Link) (sent : List UInt8) (b : UInt8) : UInt8 :=
  l.cable.elim 0xFF fun cable => cable.answer (cable.sent ++ sent.toArray) b

/-- Two link ports that show the same, with partners that will answer the same. -/
structure Link.Alike (l l' : Link) : Prop where
  sb : l.sb = l'.sb
  sc : l.sc = l'.sc
  partner : l.partner = l'.partner

/-- Two buses that differ for the host alone, as far as the scope goes. -/
structure Bus.AlikeIn (scope : Scope) (b b' : Bus) : Prop where
  wram : b.wram = b'.wram
  hram : b.hram = b'.hram
  cart : b.cart = b'.cart
  requests : b.requests = b'.requests
  enables : b.enables = b'.enables
  link : b.link.Alike b'.link
  video : b.video.within scope = b'.video.within scope
  sound : b.sound.within scope = b'.sound.within scope
  timer : b.timer = b'.timer
  joypad : b.joypad = b'.joypad
  key1 : b.key1 = b'.key1
  svbk : b.svbk = b'.svbk
  undocumented : b.undocumented = b'.undocumented
  model : b.model = b'.model
  stall : b.stall = b'.stall
  slots : b.slots = b'.slots

/-- Two buses that differ for the host alone, and have the same snapshot. -/
abbrev Bus.Alike (b b' : Bus) : Prop :=
  b.AlikeIn .snapshot b'

namespace Link

/-- A transfer brings the answer of the partner, who remembers the byte. -/
theorem transfer_shows (l : Link) :
    l.transfer.sb = l.partner [] l.sb ∧ l.transfer.sc = 0x01 ∧
      l.transfer.partner = fun sent => l.partner (l.sb :: sent) := by
  obtain ⟨sb, sc, cable⟩ := l
  cases cable with
  | none => exact ⟨rfl, rfl, rfl⟩
  | some cable =>
    refine ⟨?_, rfl, funext fun sent => funext fun b => ?_⟩
    · simp only [transfer, Cable.exchange, partner, Option.elim_some, Array.append_empty]
    · simp only [transfer, Cable.exchange, partner, Option.elim_some]
      rw [List.toArray_cons, ← Array.append_assoc, Array.append_singleton]

theorem transfer_alike {l l' : Link} (h : l.Alike l') : l.transfer.Alike l'.transfer := by
  obtain ⟨sb, sc, partner⟩ := l.transfer_shows
  obtain ⟨sb', sc', partner'⟩ := l'.transfer_shows
  refine ⟨?_, sc.trans sc'.symm, ?_⟩
  · rw [sb, sb', h.partner, h.sb]
  · rw [partner, partner', h.partner, h.sb]

theorem write_alike {l l' : Link} (h : l.Alike l') (addr : UInt16) (val : UInt8) :
    (l.write addr val).Alike (l'.write addr val) := by
  unfold write
  split
  · exact { h with sb := rfl }
  · split
    · exact transfer_alike h
    · exact { h with sc := rfl }
  · exact h

theorem Alike.read {l l' : Link} (h : l.Alike l') (addr : UInt16) : l.read addr = l'.read addr := by
  unfold Link.read
  rw [h.sb, h.sc]

end Link

namespace Bus

variable {scope : Scope} {b b' : Bus}

/-! ## What is seen from inside -/

namespace AlikeIn

/-- What does not depend on the viewer is the same of both picture units. -/
theorem ofVideo {α : Type} (h : b.AlikeIn scope b') (f : Video → α) :
    f (b.video.within scope) = f (b'.video.within scope) :=
  congrArg f h.video

/-- What does not depend on the listener is the same of both sound units. -/
theorem ofSound {α : Type} (h : b.AlikeIn scope b') (f : Sound → α) :
    f (b.sound.within scope) = f (b'.sound.within scope) :=
  congrArg f h.sound

theorem slotAt (h : b.AlikeIn scope b') (addr : UInt16) : b.slotAt addr = b'.slotAt addr := by
  rw [Bus.slotAt, Bus.slotAt, h.slots]

theorem isColour (h : b.AlikeIn scope b') : b.isColour = b'.isColour := by
  rw [Bus.isColour, Bus.isColour, h.model]

theorem doubleSpeed (h : b.AlikeIn scope b') : b.doubleSpeed = b'.doubleSpeed := by
  rw [Bus.doubleSpeed, Bus.doubleSpeed, h.key1]

theorem vbk (h : b.AlikeIn scope b') : b.video.vbk = b'.video.vbk :=
  h.ofVideo fun v => v.vbk

theorem transfer (h : b.AlikeIn scope b') : b.video.transfer = b'.video.transfer :=
  h.ofVideo fun v => v.transfer

theorem lcdOn (h : b.AlikeIn scope b') : b.video.lcdOn = b'.video.lcdOn :=
  h.ofVideo Video.lcdOn

theorem mode (h : b.AlikeIn scope b') : b.video.mode = b'.video.mode :=
  h.ofVideo fun v => v.mode

theorem pending (h : b.AlikeIn scope b') : b.video.pending = b'.video.pending :=
  h.ofVideo Video.pending

theorem vramAt (h : b.AlikeIn scope b') (i : Nat) : b.video.vramAt i = b'.video.vramAt i :=
  h.ofVideo fun v => v.vramAt i

theorem readSlot (h : b.AlikeIn scope b') (addr : UInt16) : b.readSlot addr = b'.readSlot addr := by
  simp only [Bus.readSlot, h.slotAt, h.cart, h.wram, h.vramAt]

theorem readColourIo (h : b.AlikeIn scope b') (addr : UInt16) :
    b.readColourIo addr = b'.readColourIo addr := by
  have video : b.video.read addr = b'.video.read addr := h.ofVideo fun v => v.read addr
  simp only [Bus.readColourIo, h.key1, h.svbk, h.undocumented, video]

theorem readIo (h : b.AlikeIn scope b') (addr : UInt16) : b.readIo addr = b'.readIo addr := by
  have video : b.video.read addr = b'.video.read addr := h.ofVideo fun v => v.read addr
  have sound : b.sound.read addr = b'.sound.read addr := h.ofSound fun s => s.read addr
  simp only [Bus.readIo, h.joypad, h.link.read, h.timer, h.requests, video, sound, h.isColour,
    h.readColourIo]

/-- A read gives the same on both. -/
theorem read (h : b.AlikeIn scope b') (addr : UInt16) : b.read addr = b'.read addr := by
  have oam : b.video.oamAt (addr - 0xFE00).toNat = b'.video.oamAt (addr - 0xFE00).toNat :=
    h.ofVideo fun v => v.oamAt (addr - 0xFE00).toNat
  simp only [Bus.read, h.readSlot, oam, h.readIo, h.hram, h.enables]

theorem slotTable (h : b.AlikeIn scope b') : b.slotTable = b'.slotTable :=
  slotTable_of h.model h.vbk h.svbk (congrArg (Option.map Cartridge.blank) h.cart)

end AlikeIn

/-! ## Writes -/

theorem remap_alike (h : b.AlikeIn scope b') : b.remap.AlikeIn scope b'.remap := by
  unfold remap
  exact { h with slots := h.slotTable }

theorem report_alike (h : b.AlikeIn scope b') (notice notice' : Notice) :
    (b.report notice).AlikeIn scope (b'.report notice') :=
  { h with }

theorem clockSound_alike (h : b.AlikeIn scope b') (edges : Nat) :
    (b.clockSound edges).AlikeIn scope (b'.clockSound edges) := by
  unfold clockSound
  split
  · exact h
  · have sound := h.ofSound fun s => s.stepSequencerMany edges
    simp only [← (Sound.deaf_stepSequencerMany edges).within scope] at sound
    exact { h with sound := sound }

theorem afterTimer_alike (h : b.AlikeIn scope b') (r : Timer.Run) :
    (b.afterTimer r).AlikeIn scope (b'.afterTimer r) := by
  have taken : AlikeIn scope { b with timer := r.timer, requests := r.requests }
      { b' with timer := r.timer, requests := r.requests } :=
    { h with timer := rfl, requests := rfl }
  exact clockSound_alike taken r.edges

theorem writeTimer_alike (h : b.AlikeIn scope b') (addr : UInt16) (val : UInt8) :
    (b.writeTimer addr val).AlikeIn scope (b'.writeTimer addr val) := by
  rw [writeTimer, writeTimer, h.timer, h.requests, h.doubleSpeed]
  exact afterTimer_alike h _

theorem writeLink_alike (h : b.AlikeIn scope b') (addr : UInt16) (val : UInt8) :
    (b.writeLink addr val).AlikeIn scope (b'.writeLink addr val) :=
  { h with
    link := Link.write_alike h.link addr val
    requests := congrArg (Link.requestsAfter addr val) h.requests }

/-- The picture unit in use, without its viewer. -/
theorem AlikeIn.run (h : b.AlikeIn scope b') :
    (b.video.withRequests b.requests).within scope =
      (b'.video.withRequests b'.requests).within scope := by
  simp only [Video.withRequests, Video.Run.within, h.video, h.requests]

/-- What the picture unit leaves behind is taken over alike. -/
theorem AlikeIn.afterVideo (h : b.AlikeIn scope b') {r r' : Video.Run}
    (same : r.within scope = r'.within scope) :
    AlikeIn scope { b with video := r.video, requests := r.requests }
      { b' with video := r'.video, requests := r'.requests } := by
  obtain ⟨video, requests⟩ := Video.Run.mk.inj same
  exact { h with video := video, requests := requests }

theorem writeVideo_alike (h : b.AlikeIn scope b') (addr : UInt16) (val : UInt8) :
    (b.writeVideo addr val).AlikeIn scope (b'.writeVideo addr val) := by
  refine h.afterVideo ?_
  rw [← Video.Run.write_within, ← Video.Run.write_within, h.run]

theorem writeLcdc_alike (h : b.AlikeIn scope b') (val : UInt8) :
    (b.writeLcdc val).AlikeIn scope (b'.writeLcdc val) := by
  have off : b.video.offOutsideVblank 0xFF40 val = b'.video.offOutsideVblank 0xFF40 val :=
    h.ofVideo fun v => v.offOutsideVblank 0xFF40 val
  unfold writeLcdc
  rw [off]
  split
  · exact writeVideo_alike (report_alike h _ _) _ val
  · exact writeVideo_alike h _ val

/-- Object memory is filled alike. -/
theorem AlikeIn.withObjects (h : b.AlikeIn scope b') (dma : UInt8) (oam : Vector UInt8 0xA0) :
    AlikeIn scope { b with video := { b.video with dma := dma, oam := oam } }
      { b' with video := { b'.video with dma := dma, oam := oam } } :=
  { h with video := h.ofVideo fun v => { v with dma := dma, oam := oam } }

theorem fillObjects_alike (h : b.AlikeIn scope b') (val : UInt8) :
    (b.fillObjects val).AlikeIn scope (b'.fillObjects val) := by
  unfold fillObjects
  simp only [h.readSlot]
  exact h.withObjects val _

theorem copyByte_alike (h : b.AlikeIn scope b') (source target : UInt16) :
    (b.copyByte source target).AlikeIn scope (b'.copyByte source target) := by
  simp only [copyByte, h.readSlot, h.vbk]
  exact { h with video := h.ofVideo fun v => v.setVramAt _ _ }

theorem copyToVram_alike (h : b.AlikeIn scope b') (source target : UInt16) (n : Nat) :
    (b.copyToVram source target n).AlikeIn scope (b'.copyToVram source target n) := by
  induction n generalizing b b' source target with
  | zero => exact h
  | succ n ih => exact ih (copyByte_alike h source target) _ _

theorem chargeBlocks_alike (h : b.AlikeIn scope b') (blocks : Nat) :
    (b.chargeBlocks blocks).AlikeIn scope (b'.chargeBlocks blocks) := by
  simp only [chargeBlocks, blockCycles, h.doubleSpeed, h.stall]
  exact { h with stall := rfl }

theorem updateTransfer_alike (h : b.AlikeIn scope b') (f : BlockTransfer → BlockTransfer) :
    (b.updateTransfer f).AlikeIn scope (b'.updateTransfer f) :=
  { h with video := h.ofVideo fun v => { v with transfer := f v.transfer } }

theorem transferNow_alike (h : b.AlikeIn scope b') (blocks : Nat) :
    (b.transferNow blocks).AlikeIn scope (b'.transferNow blocks) := by
  simp only [transferNow, h.transfer]
  exact chargeBlocks_alike (updateTransfer_alike (copyToVram_alike h _ _ _) _) blocks

theorem transferBlock_alike (h : b.AlikeIn scope b') :
    b.transferBlock.AlikeIn scope b'.transferBlock := by
  simp only [transferBlock, h.transfer]
  exact updateTransfer_alike (chargeBlocks_alike (copyToVram_alike h _ _ _) 1) _

theorem writeTransfer_alike (h : b.AlikeIn scope b') (val : UInt8) :
    (b.writeTransfer val).AlikeIn scope (b'.writeTransfer val) := by
  simp only [writeTransfer, h.transfer]
  split
  · exact updateTransfer_alike h _
  split
  · exact report_alike (updateTransfer_alike h _) _ _
  · exact transferNow_alike h _

theorem writeSvbk_alike (h : b.AlikeIn scope b') (val : UInt8) :
    (b.writeSvbk val).AlikeIn scope (b'.writeSvbk val) :=
  remap_alike { h with svbk := rfl }

theorem writeColourIo_alike (h : b.AlikeIn scope b') (addr : UInt16) (val : UInt8) :
    (b.writeColourIo addr val).AlikeIn scope (b'.writeColourIo addr val) := by
  unfold writeColourIo
  split
  · exact { h with key1 := congrArg (fun key1 => (key1 &&& 0x80) ||| (val &&& 0x01)) h.key1 }
  split
  · exact remap_alike (writeVideo_alike h addr val)
  split
  · exact writeVideo_alike h addr val
  split
  · exact writeTransfer_alike h val
  split
  · exact writeSvbk_alike h val
  split
  · exact { h with
      undocumented := congrArg (fun u : Vector UInt8 4 => u.setIfInBounds _ val) h.undocumented }
  split
  · exact { h with
      undocumented := congrArg (fun u : Vector UInt8 4 => u.setIfInBounds 3 _) h.undocumented }
  · exact h

theorem writeIo_alike (h : b.AlikeIn scope b') (addr : UInt16) (val : UInt8) :
    (b.writeIo addr val).AlikeIn scope (b'.writeIo addr val) := by
  unfold writeIo
  rw [h.isColour]
  split
  · exact { h with joypad := congrArg (fun j => j.write val) h.joypad }
  split
  · exact writeLink_alike h addr val
  split
  · exact writeTimer_alike h addr val
  split
  · exact { h with requests := rfl }
  split
  · have sound := h.ofSound fun s => s.write addr val
    simp only [← (Sound.deaf_write addr val).within scope] at sound
    exact { h with sound := sound }
  split
  · exact writeLcdc_alike h val
  split
  · exact fillObjects_alike h val
  split
  · exact writeVideo_alike h addr val
  split
  · exact writeColourIo_alike h addr val
  · exact h

theorem writeControl_alike (h : b.AlikeIn scope b') (addr : UInt16) (val : UInt8) :
    (b.writeControl addr val).AlikeIn scope (b'.writeControl addr val) := by
  unfold writeControl
  rw [h.cart]
  split
  · exact remap_alike { h with cart := rfl }
  · exact h

theorem writeVram_alike (h : b.AlikeIn scope b') (addr : UInt16) (val : UInt8) :
    (b.writeVram addr val).AlikeIn scope (b'.writeVram addr val) := by
  have blocked : b.vramBlocked = b'.vramBlocked := by
    rw [vramBlocked, vramBlocked, h.lcdOn, h.mode]
  unfold writeVram
  rw [blocked, h.slotAt]
  split
  · exact h
  · exact { h with video := h.ofVideo fun v => v.setVramAt _ val }

theorem writeCartRam_alike (h : b.AlikeIn scope b') (addr : UInt16) (val : UInt8) :
    (b.writeCartRam addr val).AlikeIn scope (b'.writeCartRam addr val) := by
  rw [writeCartRam, writeCartRam, h.cart]
  exact { h with cart := rfl }

theorem writeWram_alike (h : b.AlikeIn scope b') (addr : UInt16) (val : UInt8) :
    (b.writeWram addr val).AlikeIn scope (b'.writeWram addr val) := by
  simp only [writeWram, h.slotAt, h.wram]
  exact { h with wram := rfl }

theorem writeOam_alike (h : b.AlikeIn scope b') (addr : UInt16) (val : UInt8) :
    (b.writeOam addr val).AlikeIn scope (b'.writeOam addr val) := by
  have blocked : b.oamBlocked = b'.oamBlocked := by
    rw [oamBlocked, oamBlocked, h.lcdOn, h.mode]
  unfold writeOam
  rw [blocked]
  split
  · exact h
  · exact { h with video := h.ofVideo fun v => v.setOamAt _ val }

/-- A write leaves two buses alike. -/
theorem write_alike (h : b.AlikeIn scope b') (addr : UInt16) (val : UInt8) :
    (b.write addr val).AlikeIn scope (b'.write addr val) := by
  unfold write
  split
  · exact writeControl_alike h addr val
  split
  · exact writeVram_alike h addr val
  split
  · exact writeCartRam_alike h addr val
  split
  · exact writeWram_alike h addr val
  split
  · exact writeOam_alike h addr val
  split
  · exact h
  split
  · exact writeIo_alike h addr val
  split
  · exact { h with
      hram := congrArg (fun hram : Vector UInt8 0x7F => hram.setIfInBounds _ val) h.hram }
  · exact { h with enables := rfl }

/-- The joypad leaves two buses alike. -/
theorem setButtons_alike (h : b.AlikeIn scope b') (mask : UInt8) (down : Bool) :
    (b.setButtons mask down).AlikeIn scope (b'.setButtons mask down) := by
  simp only [setButtons, h.joypad, h.requests]
  exact { h with joypad := rfl, requests := rfl }

/-! ## Time -/

theorem switchSpeed_alike (h : b.AlikeIn scope b') :
    b.switchSpeed.AlikeIn scope b'.switchSpeed := by
  simp only [switchSpeed, doubleSpeed, h.key1, h.timer, h.requests]
  have switched (key1 : UInt8) : AlikeIn scope { b with key1 := key1 } { b' with key1 := key1 } :=
    { h with key1 := rfl }
  exact afterTimer_alike (switched _) _

theorem countHblank_alike (h : b.AlikeIn scope b') : b.countHblank.AlikeIn scope b'.countHblank :=
  { h with }

theorem endLine_alike (h : b.AlikeIn scope b') : b.endLine.AlikeIn scope b'.endLine := by
  unfold endLine
  rw [h.transfer]
  refine countHblank_alike ?_
  split
  · exact transferBlock_alike h
  · exact h

theorem onEvent_alike (h : b.AlikeIn scope b') (event : Option Video.Event) :
    (b.onEvent event).AlikeIn scope (b'.onEvent event) := by
  unfold onEvent
  split
  · exact h
  · exact endLine_alike h
  · exact { h with }

theorem advanceVideo_alike (h : b.AlikeIn scope b') :
    b.advanceVideo.AlikeIn scope b'.advanceVideo := by
  have first := Video.Run.advance_within scope (b.video.withRequests b.requests)
  have second := Video.Run.advance_within scope (b'.video.withRequests b'.requests)
  rw [h.run, second] at first
  obtain ⟨run, event⟩ := Prod.mk.inj first
  simp only [advanceVideo, ← event]
  exact onEvent_alike (h.afterVideo run.symm) _

theorem settle_alike (h : b.AlikeIn scope b') : b.settle.AlikeIn scope b'.settle := by
  fun_induction settle b generalizing b' with
  | case1 b due ih =>
    have due' : b'.video.pending = true := h.pending.symm.trans due
    have goesOn : b'.settle = b'.advanceVideo.settle := by rw [settle, dif_pos due']
    rw [goesOn]
    exact ih (advanceVideo_alike h)
  | case2 b idle =>
    have idle' : ¬ b'.video.pending = true := by rwa [← h.pending]
    rw [settle, dif_neg idle']
    exact h

theorem stepTimer_alike (h : b.AlikeIn scope b') (cycles : Nat) :
    (b.stepTimer cycles).AlikeIn scope (b'.stepTimer cycles) := by
  rw [stepTimer, stepTimer, h.timer, h.requests, h.doubleSpeed]
  exact afterTimer_alike h _

theorem stepDevices_alike (h : b.AlikeIn scope b') (cycles : Nat) :
    (b.stepDevices cycles).AlikeIn scope (b'.stepDevices cycles) := by
  have sound := h.ofSound fun s => s.step cycles
  have video := h.ofVideo fun v => v.tick cycles
  simp only [← Sound.step_within, ← Video.tick_within] at sound video
  exact settle_alike { h with sound := sound, video := video }

theorem baseCycles_alike (h : b.AlikeIn scope b') (cycles : Nat) :
    b.baseCycles cycles = b'.baseCycles cycles := by
  rw [baseCycles, baseCycles, h.doubleSpeed]

/-- Time leaves two buses alike. -/
theorem step_alike (h : b.AlikeIn scope b') (cycles : Nat) :
    (b.step cycles).AlikeIn scope (b'.step cycles) := by
  simp only [step, baseCycles_alike h]
  exact stepDevices_alike (stepTimer_alike h cycles) _

/-! ## The processor -/

theorem spoilOam_alike (h : b.AlikeIn scope b') :
    AlikeIn scope { b with video := b.video.spoilOam } { b' with video := b'.video.spoilOam } := by
  have video := h.ofVideo Video.spoilOam
  simp only [← Video.spoilOam_within] at video
  exact { h with video := video }

theorem takeStall_alike (h : b.AlikeIn scope b') : b.takeStall.AlikeIn scope b'.takeStall :=
  { h with stall := rfl }

theorem AlikeIn.speedArmed (h : b.AlikeIn scope b') : b.speedArmed = b'.speedArmed := by
  rw [Bus.speedArmed, Bus.speedArmed, h.isColour, h.key1]

/-- The processor does not tell two buses apart that are alike, and leaves them alike. -/
theorem alike_simulation : Simulation (AlikeIn scope) where
  read h := h.read
  write h := write_alike h
  requests h := h.requests
  enables h := h.enables
  acknowledge h _ := { h with requests := rfl }
  spoilOam h := spoilOam_alike h
  speedArmed h := h.speedArmed
  doubleSpeed h := h.doubleSpeed
  switchSpeed h := switchSpeed_alike h
  report h notice := report_alike h notice notice
  stall h := h.stall
  takeStall h := takeStall_alike h
  step h := step_alike h

/-! ## Scopes -/

/-- The same counts of two buses that are alike. -/
theorem AlikeIn.within (h : b.AlikeIn scope b') : b.within scope = b'.within scope := by
  have link : b.link.stored = b'.link.stored := by
    rw [Link.stored, Link.stored, h.link.sb, h.link.sc]
  simp only [Bus.within, Bus.stored, h.wram, h.hram, h.cart, h.requests, h.enables, link, h.video,
    h.sound, h.timer, h.joypad, h.key1, h.svbk, h.undocumented, h.model, h.stall]

/-- Two buses of which the same counts are alike with one cartridge, partners that answer the same,
and the same slots. -/
theorem alike_of_within (same : b.within scope = b'.within scope) (cart : b.cart = b'.cart)
    (partner : b.link.partner = b'.link.partner) (slots : b.slots = b'.slots) :
    b.AlikeIn scope b' where
  wram := (congrArg Bus.wram same :)
  hram := (congrArg Bus.hram same :)
  cart := cart
  requests := (congrArg Bus.requests same :)
  enables := (congrArg Bus.enables same :)
  link.sb := (congrArg (fun b => b.link.sb) same :)
  link.sc := (congrArg (fun b => b.link.sc) same :)
  link.partner := partner
  video := (congrArg Bus.video same :)
  sound := (congrArg Bus.sound same :)
  timer := (congrArg Bus.timer same :)
  joypad := (congrArg Bus.joypad same :)
  key1 := (congrArg Bus.key1 same :)
  svbk := (congrArg Bus.svbk same :)
  undocumented := (congrArg Bus.undocumented same :)
  model := (congrArg Bus.model same :)
  stall := (congrArg Bus.stall same :)
  slots := slots

end Bus

end DotMatrix
