import DotMatrix.Model

/-!
# Pixel buffers

The host's picture. It holds one cell for every pixel of its 144 rows; `bytes` is the same picture
as the host's memory, least byte of a pixel first. A row may be shorter or longer than a line of
the screen: a line that is too long runs on into the next row.
-/

namespace DotMatrix

/-- A picture: its pixels row by row, the pixels of a row, and the bytes of a pixel. -/
structure PixelBuffer where
  cells : Array UInt32
  stride : Nat
  bytesPerPixel : Nat
  deriving DecidableEq, Repr, Inhabited

namespace PixelBuffer

/-- One or two bytes a pixel, or else four. -/
def supportedSize (bytesPerPixel : Nat) : Nat :=
  if bytesPerPixel = 1 || bytesPerPixel = 2 then bytesPerPixel else 4

/-- A black picture with rows of `stride` pixels. -/
def blank (stride bytesPerPixel : Nat) : PixelBuffer :=
  { cells := Array.replicate (stride * screenHeight) 0
    stride := stride
    bytesPerPixel := supportedSize bytesPerPixel }

/-- A pixel value cut to the bytes of a pixel. -/
def clip (bytesPerPixel : Nat) (c : UInt32) : UInt32 :=
  if bytesPerPixel = 1 then c &&& 0xFF else if bytesPerPixel = 2 then c &&& 0xFFFF else c

/-- Sets the pixel at column `x` of row `y`; outside the picture nothing happens. -/
def put (p : PixelBuffer) (x y : Nat) (c : UInt32) : PixelBuffer :=
  { p with cells := p.cells.setIfInBounds (y * p.stride + x) (clip p.bytesPerPixel c) }

/-- The pixel at column `x` of row `y`, 0 outside the picture. -/
def pixel (p : PixelBuffer) (x y : Nat) : UInt32 :=
  p.cells.getD (y * p.stride + x) 0

/-- Sets the pixels of row `y` from column `x` on. -/
def putFrom (p : PixelBuffer) (y : Nat) : Nat → List UInt32 → PixelBuffer
  | _, [] => p
  | x, c :: rest => putFrom (p.put x y c) y (x + 1) rest

/-- Sets the pixels of row `y`. -/
def putRow (p : PixelBuffer) (y : Nat) (colours : Array UInt32) : PixelBuffer :=
  p.putFrom y 0 colours.toList

/-- The `n` lowest bytes of a pixel, least first. -/
def pixelBytes : Nat → UInt32 → List UInt8
  | 0, _ => []
  | n + 1, c => c.toUInt8 :: pixelBytes n (c >>> 8)

/-- The picture as bytes. -/
def bytes (p : PixelBuffer) : Array UInt8 :=
  p.cells.foldl (fun out c => out.appendList (pixelBytes p.bytesPerPixel c)) #[]

end PixelBuffer

end DotMatrix
