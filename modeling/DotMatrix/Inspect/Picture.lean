import DotMatrix.Inspect.Report
import DotMatrix.Video.Registers

/-!
# The picture unit, shown

The state of the picture unit, the picture itself, and the conversions that a tint was asked for.
-/

namespace DotMatrix

/-- A colour by its components. -/
def Rgb.inspect (c : Rgb) : Report :=
  .list [c.red, c.green, c.blue]

/-- The four shades of a palette. -/
def Palette.inspectShades (s : Shades) : Report :=
  .list (s.toList.map Rgb.inspect)

/-- The shades of the background and of the two object palettes. -/
def Palette.items (p : Palette) : List (String × Report) :=
  [("bg", inspectShades p.bg), ("obj0", inspectShades p.obj0), ("obj1", inspectShades p.obj1)]

/-- The layers that are shown. -/
def Layers.inspect (l : Layers) : Report :=
  .fields [("bg", l.bg), ("win", l.win), ("obj", l.obj)]

/-- The block transfer. -/
def BlockTransfer.inspect (t : BlockTransfer) : Report :=
  .fields [("src_hi", t.sourceHigh), ("src_lo", t.sourceLow), ("dst_hi", t.targetHigh),
    ("dst_lo", t.targetLow), ("src", t.source), ("dst", t.target), ("length", t.length),
    ("hdma5", t.status)]

namespace Video

/-- The picture unit. -/
def inspect (v : Video) : Report :=
  .fields [("vram", .digest v.vram), ("oam", .hex v.oam.toArray), ("vbk", v.vbk),
    ("system", v.model.tag), ("lcdc", v.lcdc), ("stat", v.stat), ("scy", v.scy), ("scx", v.scx),
    ("ly", v.ly), ("lyc", v.lyc), ("coincidence", v.coincidence), ("dma", v.dma), ("bgp", v.bgp),
    ("obp0", v.obp0), ("obp1", v.obp1), ("wy", v.wy), ("wx", v.wx), ("window_line", v.windowLine),
    ("bcps", v.bcps), ("bg_cram", .hex v.bgColours.toArray), ("ocps", v.ocps),
    ("obj_cram", .hex v.objColours.toArray), ("opri", v.opri), ("next_cycles", v.nextCycles),
    ("mode", v.mode), ("stat_line", v.statLine), ("hdma", v.transfer.inspect),
    ("palette", .fields v.palette.items), ("layers", v.layers.inspect)]

/-- The place in the frame, and the status registers. -/
def brief (v : Video) (requests : UInt8) : Report :=
  .list [v.ly, v.mode, v.nextCycles, v.windowLine, v.read 0xFF41, requests]

end Video

/-! ## Pictures -/

namespace PixelBuffer

/-- The short digest of the bytes of row `y`, of no bytes if the row is not whole. -/
def rowDigest (bytes : Array UInt8) (width y : Nat) : String :=
  let stop := (y + 1) * width
  let row := if stop ≤ bytes.size then bytes.extract (y * width) stop else #[]
  lowerHex 8 (Digest.ofBytes row).toUInt32.toNat

/-- The digests of all rows. -/
def rowDigests (bytes : Array UInt8) (width : Nat) : String :=
  String.intercalate " " ((List.range screenHeight).map (rowDigest bytes width))

/-- The picture by its digests. -/
def inspect (p : PixelBuffer) : Report :=
  let bytes := p.bytes
  .fields [("len", bytes.size), ("stride", p.stride), ("bpp", p.bytesPerPixel),
    ("fnv", .digest bytes), ("rows", rowDigests bytes (p.stride * p.bytesPerPixel))]

/-- Adds a pixel in front of runs of equal pixels. -/
def joinRun (c : UInt32) : List (Nat × UInt32) → List (Nat × UInt32)
  | (n, d) :: rest => if c = d then (n + 1, d) :: rest else (1, c) :: (n, d) :: rest
  | [] => [(1, c)]

/-- Row `y` as runs of equal pixels. -/
def rowRuns (p : PixelBuffer) (y : Nat) : List (Nat × UInt32) :=
  ((List.range p.stride).map fun x => p.pixel x y).foldr joinRun []

/-- Row `y` in words: the length and the value of every run. -/
def rowText (p : PixelBuffer) (y : Nat) : String :=
  String.intercalate " " ((p.rowRuns y).map fun run => s!"{run.1}x" ++ lowerHex 1 run.2.toNat)

end PixelBuffer

/-! ## Conversions -/

/-- The number of a kind of colour. -/
def ColourKind.number : ColourKind → UInt8
  | shade => 1
  | background => 2
  | object => 3

/-- A conversion by its kind and its components. -/
def ColourCall.bytes (c : ColourCall) : List UInt8 :=
  [c.kind.number, c.red, c.green, c.blue]

/-- Conversions by their number and their digest. -/
def ColourCall.inspectAll (calls : Array ColourCall) : Report :=
  .fields [("calls", calls.size),
    ("fnv", Digest.text (calls.foldl (fun d c => c.bytes.foldl Digest.add d) Digest.start))]

end DotMatrix
