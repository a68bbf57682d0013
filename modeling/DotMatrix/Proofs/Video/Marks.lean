import DotMatrix.Proofs.Video.Colours

/-!
# What is marked as out of date

Whatever changes what colours are made of marks those concerned: a palette register and a byte of
colour memory their own, and all of them the shades, the picture, the tint, power-up, a reset and a
restored state. Lines that are drawn in between clear the marks, but only with the colours resolved.
So a unit with a picture never draws in a colour that is out of date.

Results:
* `Ready`, `renderLine_ready`, `write_ready`, `advance_ready`: no colour that is out of date goes
  unmarked, as lines are drawn, registers written, and time passes.
* `Acted`, **`Acted.ready`**, `Used`, **`Used.ready`**: whatever happens to the unit, in any order.
* **`colours_anew`**: every colour that is read while a line is drawn is the one made from scratch.
-/

namespace DotMatrix

namespace PixelBuffer

theorem putFrom_bytesPerPixel (p : PixelBuffer) (y x : Nat) (colours : List UInt32) :
    (p.putFrom y x colours).bytesPerPixel = p.bytesPerPixel := by
  induction colours generalizing p x with
  | nil => rfl
  | cons c colours ih => exact ih (p.put x y c) (x + 1)

end PixelBuffer

namespace Video

variable {v w : Video}

/-- A unit with a picture is fresh. Without a picture it need not be: the bytes of a pixel, which
the colours of a host without a tint are made for, have gone with the picture. -/
def Ready (v : Video) : Prop :=
  v.screen.isSome = true → v.Fresh

/-- Whether there is a picture, the resolved colours, what they would be from scratch, and whether
the colour hardware is present: what being ready depends on. -/
def colours (v : Video) : Bool × ColourCache × ColourCache × Bool :=
  (v.screen.isSome, v.cache, v.anew, v.isColour)

theorem Ready.congr (h : v.Ready) (same : w.colours = v.colours) : w.Ready := by
  obtain ⟨screen, cache, anew, colour⟩ : w.screen.isSome = v.screen.isSome ∧ w.cache = v.cache ∧
      w.anew = v.anew ∧ w.isColour = v.isColour := by
    simpa only [colours, Prod.mk.injEq] using same
  intro attached
  rw [screen] at attached
  unfold Fresh
  rw [cache, anew, colour]
  exact h attached

/-- With everything marked there is nothing that could be out of date. -/
theorem spoilColours_ready (v : Video) : v.spoilColours.Ready :=
  fun _ => v.spoilColours_fresh

/-! ## Drawing -/

theorem countWindow_colours (v : Video) : v.countWindow.colours = v.colours := by
  unfold countWindow
  split <;> rfl

/-- A line that is drawn leaves the colours alone: the picture keeps the bytes of its pixels. -/
theorem paintLine_colours (v : Video) : v.paintLine.colours = v.colours := by
  have host (call : ColourCall) : v.paintLine.hostColour call = v.hostColour call := by
    unfold paintLine hostColour
    cases v.tint with
    | some tint => rfl
    | none =>
      cases v.screen with
      | none => rfl
      | some p => simp only [Option.map_some, Option.elim_some, PixelBuffer.putRow,
          PixelBuffer.putFrom_bytesPerPixel]
  have anew : v.paintLine.anew = v.anew := anew_congr v.cache _ v.tint host
  have screen : v.paintLine.screen.isSome = v.screen.isSome := Option.isSome_map
  simp only [colours, anew, screen]
  rfl

/-- Drawing a line, or not, keeps a unit ready. -/
theorem renderLine_ready (h : v.Ready) : v.renderLine.Ready := by
  unfold renderLine
  split
  next drawn =>
    have fresh := h (Bool.and_eq_true_iff.mp drawn).1
    have refreshed : v.refreshColours.Ready := fun _ => fresh.refresh
    exact refreshed.congr ((countWindow_colours _).trans (paintLine_colours _))
  · exact h.congr (countWindow_colours v)

/-! ## Time -/

theorem tick_colours (v : Video) (cycles : Nat) : (v.tick cycles).colours = v.colours := by
  unfold tick
  split <;> rfl

theorem nextBlankLine_colours (v : Video) : v.nextBlankLine.colours = v.colours := by
  simp only [nextBlankLine, compareLine]
  split
  · rfl
  · split <;> rfl

namespace Run

variable {r : Run}

theorem turn_ready (h : r.video.Ready) : r.turn.1.video.Ready := by
  unfold turn
  split
  · unfold nextLine beginLine
    split <;> exact h.congr rfl
  split
  · split
    · exact h.congr rfl
    · exact h.congr (nextBlankLine_colours r.video)
  split
  · exact h.congr rfl
  · exact renderLine_ready (v := r.video.enter hblankMode 204) (h.congr rfl)

/-- A step of the frame. -/
theorem advance_ready (h : r.video.Ready) : r.advance.1.video.Ready := by
  unfold advance
  split
  · exact (turn_ready h).congr rfl
  · exact h

end Run

/-! ## Registers -/

/-- A palette register marks its own colours. -/
theorem writeBgp_ready (h : v.Ready) (val : UInt8) : (v.writeBgp val).Ready :=
  fun attached => { h attached with bgp := nofun }

theorem writeObp0_ready (h : v.Ready) (val : UInt8) : (v.writeObp0 val).Ready :=
  fun attached => { h attached with obp0 := nofun }

theorem writeObp1_ready (h : v.Ready) (val : UInt8) : (v.writeObp1 val).Ready :=
  fun attached => { h attached with obp1 := nofun }

/-- A byte of colour memory marks the colours of this memory. -/
theorem writeBackgroundColour_ready (h : v.Ready) (val : UInt8) :
    (v.writeBackgroundColour val).Ready :=
  fun attached => { h attached with background := nofun }

theorem writeObjectColour_ready (h : v.Ready) (val : UInt8) : (v.writeObjectColour val).Ready :=
  fun attached => { h attached with objects := nofun }

theorem writeColourReg_ready (h : v.Ready) (addr : UInt16) (val : UInt8) :
    (v.writeColourReg addr val).Ready := by
  unfold writeColourReg
  split
  case h_7 => exact writeBackgroundColour_ready h val
  case h_9 => exact writeObjectColour_ready h val
  all_goals exact h.congr rfl

theorem Run.writeLcdc_colours (r : Run) (val : UInt8) :
    (r.writeLcdc val).video.colours = r.video.colours := by
  simp only [writeLcdc]
  split
  · rfl
  · split <;> rfl

/-- A write to a register. -/
theorem Run.write_ready {r : Run} (h : r.video.Ready) (addr : UInt16) (val : UInt8) :
    (r.write addr val).video.Ready := by
  unfold write
  split
  case h_1 => exact h.congr (writeLcdc_colours r val)
  case h_7 => exact writeBgp_ready h val
  case h_8 => exact writeObp0_ready h val
  case h_9 => exact writeObp1_ready h val
  case h_12 =>
    simp only [update]
    split
    · exact writeColourReg_ready h addr val
    · exact h
  all_goals exact h.congr rfl

/-! ## Everything that happens -/

theorem takeCalls_colours (v : Video) : v.takeCalls.2.colours = v.colours := by
  have anew : v.takeCalls.2.anew = v.anew := by
    refine anew_congr v.cache v.screen _ fun call => ?_
    simp only [hostColour]
    cases v.tint <;> rfl
  simp only [colours, anew]
  rfl

/-- What may happen to the unit. -/
inductive Acted (v : Video) : Video → Prop where
  /-- A register is written, one of colour memory among them. -/
  | write (requests : UInt8) (addr : UInt16) (val : UInt8) :
      Acted v ((v.withRequests requests).write addr val).video
  /-- Time passes, up to a step of the frame or over it. -/
  | tick (cycles : Nat) : Acted v (v.tick cycles)
  | enter (mode : UInt8) (cycles : Int) : Acted v (v.enter mode cycles)
  | advance (requests : UInt8) : Acted v (v.withRequests requests).advance.1.video
  /-- A line comes to its end. -/
  | renderLine : Acted v v.renderLine
  /-- Memory is written, and the block transfer goes on. -/
  | memory (vram : Array UInt8) (oam : Vector UInt8 0xA0) (dma : UInt8) (transfer : BlockTransfer) :
      Acted v { v with vram, oam, dma, transfer }
  /-- The host chooses its shades and layers, attaches a picture or takes it back, and brings or
  reads a tint. -/
  | setPalette (palette : Palette) : Acted v (v.setPalette palette)
  | setLayers (layers : Layers) : Acted v (v.setLayers layers)
  | setScreen (screen : Option PixelBuffer) : Acted v (v.setScreen screen)
  | takeScreen : Acted v v.takeScreen
  | setTint (tint : Option Tint) : Acted v (v.setTint tint)
  | takeCalls : Acted v v.takeCalls.2
  /-- The machine is reset. -/
  | reset (model : Model) : Acted v ((unpowered model).adoptHost v).boot
  /-- A saved state takes the place of the unit, and takes over its host's side. -/
  | restore (saved : Video) : Acted v (saved.adoptHost v)

/-- Whatever happens to the unit, no colour that is out of date goes unmarked. -/
theorem Acted.ready (acted : v.Acted w) (h : v.Ready) : w.Ready := by
  cases acted with
  | write requests addr val => exact Run.write_ready (r := v.withRequests requests) h addr val
  | tick cycles => exact h.congr (tick_colours v cycles)
  | advance requests => exact Run.advance_ready (r := v.withRequests requests) h
  | renderLine => exact renderLine_ready h
  | enter | memory | setLayers => exact h.congr rfl
  | setPalette | setScreen | setTint | reset | restore => exact spoilColours_ready _
  | takeScreen => exact nofun
  | takeCalls => exact h.congr (takeCalls_colours v)

/-- The units that come about from power-up, by whatever may happen and in any order. -/
inductive Used : Video → Prop where
  | new (model : Model) : Used (unpowered model)
  | act {v w : Video} : v.Used → v.Acted w → Used w

/-- However a unit is used, it is ready to draw. -/
theorem Used.ready (used : v.Used) : v.Ready := by
  induction used with
  | new model => exact nofun
  | act _ acted ih => exact acted.ready ih

/-! ## The line -/

/-- With everything marked, a line is drawn from the same colours. -/
theorem Fresh.lineColours_spoil (h : v.Fresh) :
    v.spoilColours.refreshColours.lineColours = v.refreshColours.lineColours := by
  have spoilt : v.spoilColours.refreshColours = { v with
      cache := v.spoilColours.resolved
      tint := v.tint.map fun t => t.record v.spoilColours.pendingCalls } := rfl
  obtain ⟨cache, tint, refreshed⟩ := refreshColours_eq v
  have same : cache = v.spoilColours.resolved := by
    rw [← h.resolved_spoil, ← refreshColours_cache, refreshed]
  rw [spoilt, refreshed, same]
  rfl

/-- **Every colour that is read** while a unit draws a line is the one made from scratch, from its
registers, its colour memory, the shades, the tint and the bytes of a pixel as they are now; and the
line is the one that is drawn with everything resolved again. -/
theorem colours_anew (used : v.Used) (attached : v.screen.isSome = true) :
    v.refreshColours.ReadsAnew v ∧ v.renderLine.screen = v.spoilColours.renderLine.screen := by
  have fresh := used.ready attached
  refine ⟨fresh.readsAnew, ?_⟩
  by_cases drawn : (v.screen.isSome && v.ly < 144) = true
  · have spoilt : v.spoilColours.renderLine.screen = v.screen.map fun p =>
        p.putRow v.ly.toNat v.spoilColours.refreshColours.lineColours :=
      renderLine_screen (v := v.spoilColours) drawn
    rw [renderLine_screen drawn, spoilt, fresh.lineColours_spoil]
  · have kept (w : Video) (none : ¬ (w.screen.isSome && w.ly < 144) = true) :
        w.renderLine.screen = w.screen := by
      rw [renderLine, if_neg none, countWindow_screen]
    exact (kept v drawn).trans (kept v.spoilColours drawn).symm

/-- A colour unit that has drawn a line already, when the first colour of its background has become
red. -/
def recoloured : Video :=
  let drawn :=
    (((unpowered .gbc).adoptHost (unpowered .gbc)).boot.setScreen (some (.blank 160 2))).renderLine
  let indexed := ((drawn.withRequests 0).write 0xFF68 0x80).video
  ((indexed.withRequests 0).write 0xFF69 0x1F).video

/-- The line that it draws next is red. -/
theorem colours_anew_red :
    recoloured.Used ∧ recoloured.screen.isSome = true ∧
      recoloured.refreshColours.blankColour = 0xF800 ∧
      recoloured.renderLine.screen = recoloured.spoilColours.renderLine.screen := by
  have used : recoloured.Used := by
    have booted : (((unpowered .gbc).adoptHost (unpowered .gbc)).boot).Used :=
      (Used.new .gbc).act (.reset .gbc)
    have drawn := (booted.act (.setScreen (some (.blank 160 2)))).act .renderLine
    exact (drawn.act (.write 0 0xFF68 0x80)).act (.write 0 0xFF69 0x1F)
  have attached : recoloured.screen.isSome = true := by decide +kernel
  obtain ⟨reads, line⟩ := colours_anew used attached
  exact ⟨used, attached, reads.blank.trans (by decide +kernel), line⟩

end Video
end DotMatrix
