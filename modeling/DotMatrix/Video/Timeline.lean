import DotMatrix.Video.Line

/-!
# The course of a frame

A visible line takes 456 cycles: 80 in which objects are looked up, 172 in which it is drawn, and
204 until the next. Ten lines without a picture follow the 144 visible ones; the last of them reads
as line 0 after its first four cycles. `advance` makes one step of this course when it is due.

A `Run` carries the unit together with the request byte it feeds.
-/

namespace DotMatrix

namespace Video

/-- What the bus has to know about a step of the frame. -/
inductive Event
  | hblank
  | vblank
  deriving DecidableEq, Repr

/-- The picture unit in use, with the request byte it feeds. -/
structure Run where
  video : Video
  requests : UInt8

/-- Compares the line with LYC. -/
def compareLine (v : Video) : Video :=
  { v with coincidence := v.ly == v.lyc }

/-- The next line, compared with LYC. -/
def countLine (v : Video) : Video :=
  compareLine { v with ly := v.ly + 1 }

/-- Whether the present mode is a source of the STAT interrupt that is switched on. -/
def modeSignal (v : Video) : Bool :=
  if v.mode == hblankMode then hasBit v.stat 0x08
  else if v.mode == vblankMode then hasBit v.stat 0x10
  else if v.mode == scanMode then hasBit v.stat 0x20
  else false

/-- The line that all sources of the STAT interrupt share. -/
def statSignal (v : Video) : Bool :=
  v.lcdOn && (v.coincidence && hasBit v.stat 0x40 || v.modeSignal)

/-- Consumes cycles; nothing passes while the screen is off. -/
def tick (v : Video) (cycles : Nat) : Video :=
  if v.lcdOn then { v with nextCycles := v.nextCycles - signedCount cycles } else v

/-- Whether a step of the frame is due. -/
def pending (v : Video) : Bool :=
  v.lcdOn && v.nextCycles ≤ 0

/-- Enters a mode that takes the given cycles. -/
def enter (v : Video) (mode : UInt8) (cycles : Int) : Video :=
  { v with mode := mode, nextCycles := v.nextCycles + cycles }

/-- The look-up of objects begins. -/
def enterScan (v : Video) : Video :=
  v.enter scanMode 80

/-- The drawing of the line begins. -/
def enterDraw (v : Video) : Video :=
  v.enter drawMode 172

/-- The line is drawn. -/
def enterHblank (v : Video) : Video :=
  (v.enter hblankMode 204).renderLine

/-- The visible lines are over. -/
def enterVblank (v : Video) : Video :=
  v.enter vblankMode 456

/-- The next line without a picture. -/
def nextBlankLine (v : Video) : Video :=
  let ly := v.ly + 1
  let v :=
    if ly == 153 then { v with ly := ly, nextCycles := v.nextCycles + 4 }
    else if ly == 154 then
      { v with ly := 0, windowLine := 0, nextCycles := v.nextCycles + 452 }
    else { v with ly := ly, nextCycles := v.nextCycles + 456 }
  v.compareLine

namespace Run

/-- Evaluates the STAT line; the interrupt is requested when it rises. -/
def updateStat (r : Run) : Run :=
  let signal := r.video.statSignal
  let rises := signal && !r.video.statLine
  { video := { r.video with statLine := signal }
    requests := if rises then Interrupt.stat.raise r.requests else r.requests }

/-- Changes the unit and leaves the requests alone. -/
@[inline]
def update (r : Run) (f : Video → Video) : Run :=
  { video := f r.video, requests := r.requests }

/-- The visible lines are over, and the VBlank interrupt is requested. -/
def startVblank (r : Run) : Run :=
  { video := r.video.enterVblank, requests := Interrupt.vblank.raise r.requests }

/-- What a line that has just begun is: the first without a picture, or a visible one. -/
def beginLine (r : Run) : Run × Option Event :=
  if r.video.ly == 144 then (r.startVblank, some .vblank) else (r.update enterScan, none)

/-- The line after a visible one. -/
def nextLine (r : Run) : Run × Option Event :=
  (r.update countLine).beginLine

/-- One step of the frame, before the STAT line is looked at. -/
def turn (r : Run) : Run × Option Event :=
  if r.video.mode == hblankMode then r.nextLine
  else if r.video.mode == vblankMode then
    if r.video.ly == 0 then (r.update enterScan, none) else (r.update nextBlankLine, none)
  else if r.video.mode == scanMode then (r.update enterDraw, none)
  else (r.update enterHblank, some .hblank)

/-- One step of the frame, if it is due. -/
def advance (r : Run) : Run × Option Event :=
  if r.video.pending then
    let (r, event) := r.turn
    (r.updateStat, event)
  else (r, none)

end Run

/-- The unit about to be used. -/
def withRequests (v : Video) (requests : UInt8) : Run :=
  ⟨v, requests⟩

end Video

end DotMatrix
