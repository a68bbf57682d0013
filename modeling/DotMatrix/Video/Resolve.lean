import DotMatrix.Video.Basic

/-!
# Resolving host colours

Host colours are resolved when a line is about to be drawn, and only those that are out of date.
`pendingCalls` lists the conversions this takes, in order, and `refreshColours` carries them out.
-/

namespace DotMatrix

namespace Video

/-- The host colour of a conversion: the tint's, or the default one for the host's pixel size. -/
def hostColour (v : Video) (call : ColourCall) : UInt32 :=
  match v.tint with
  | some tint => tint.convert call
  | none =>
    defaultColour (v.screen.elim 4 PixelBuffer.bytesPerPixel) call.red call.green call.blue

/-- The conversion for a shade. -/
def shadeCall (c : Rgb) : ColourCall :=
  { kind := .shade, red := c.red >>> 3, green := c.green >>> 3, blue := c.blue >>> 3 }

/-- The conversion for entry `i` of colour memory. -/
def entryCall (kind : ColourKind) (memory : Vector UInt8 0x40) (i : Nat) : ColourCall :=
  unpackColour kind (memory.toArray.getD (2 * i) 0) (memory.toArray.getD (2 * i + 1) 0)

/-- The conversion for entry `i` of the background colour memory. -/
def backgroundCall (v : Video) (i : Nat) : ColourCall :=
  entryCall .background v.bgColours i

/-- The conversion for entry `i` of the object colour memory. -/
def objectCall (v : Video) (i : Nat) : ColourCall :=
  entryCall .object v.objColours i

/-- The conversions for the shades of all layers. -/
def shadeCalls (p : Palette) : List ColourCall :=
  (p.bg.toList ++ p.obj0.toList ++ p.obj1.toList).map shadeCall

/-- The conversions for colour memory, background before objects for every entry. -/
def memoryCalls (v : Video) : List ColourCall :=
  (List.range 32).flatMap fun i =>
    (if v.cache.stale.background then [v.backgroundCall i] else []) ++
      (if v.cache.stale.objects then [v.objectCall i] else [])

/-- The conversions that bring every resolved colour up to date. -/
def pendingCalls (v : Video) : List ColourCall :=
  (if v.cache.stale.shades then shadeCalls v.palette else []) ++
    (if v.isColour then v.memoryCalls else [])

/-- The host colours of four shades. -/
def resolveShades (v : Video) (shades : Shades) : Vector UInt32 4 :=
  shades.map fun c => v.hostColour (shadeCall c)

/-- The four colours of a palette register, two bits for the shade of each. -/
def applyRegister (shades : Vector UInt32 4) (register : UInt8) : Vector UInt32 4 :=
  Vector.ofFn fun i => shades[((register >>> (2 * i.val).toUInt8) &&& 0x03).toNat]?.getD 0

/-- The resolved colours, with those that are out of date resolved again. -/
def resolved (v : Video) : ColourCache :=
  let c := v.cache
  let stale := c.stale
  let bgShades := if stale.shades then v.resolveShades v.palette.bg else c.bgShades
  let obj0Shades := if stale.shades then v.resolveShades v.palette.obj0 else c.obj0Shades
  let obj1Shades := if stale.shades then v.resolveShades v.palette.obj1 else c.obj1Shades
  { bgShades := bgShades
    obj0Shades := obj0Shades
    obj1Shades := obj1Shades
    bgp := if stale.bgp || stale.shades then applyRegister bgShades v.bgp else c.bgp
    obp0 := if stale.obp0 || stale.shades then applyRegister obj0Shades v.obp0 else c.obp0
    obp1 := if stale.obp1 || stale.shades then applyRegister obj1Shades v.obp1 else c.obp1
    background :=
      if v.isColour && stale.background then
        Vector.ofFn fun i => v.hostColour (v.backgroundCall i.val)
      else c.background
    objects :=
      if v.isColour && stale.objects then
        Vector.ofFn fun i => v.hostColour (v.objectCall i.val)
      else c.objects
    stale := .none }

/-- Brings every resolved colour up to date; the tint records its calls. -/
def refreshColours (v : Video) : Video :=
  if v.cache.stale.any then
    { v with
      cache := v.resolved
      tint := v.tint.map fun t => t.record v.pendingCalls }
  else v

end Video

end DotMatrix
