import DotMatrix.Proofs.Video.Window
import DotMatrix.Video.Registers

/-!
# The colours of a line

The host colours that a line is drawn in are kept from line to line. Those that are out of date are
marked, and resolved again when a line is about to be drawn. Of what colours are made, and which ones
a line needs, is said here from scratch: by the numbers in the registers and in colour memory, the
shades, and the host's conversion. A unit is `Fresh` if every colour that is not marked is still the
one from scratch; then all that a line reads is right.

Results:
* `registerColour_eq`, `memoryColour_eq`: what resolving does, by the numbers that registers and
  colour memory hold.
* `Fresh.resolved_follows`, `Fresh.resolved_spoil`: resolving what is marked is resolving everything.
* **`Fresh.readsAnew`**: of a unit that is fresh, every colour that a line is drawn in is the one from
  scratch.
-/

namespace DotMatrix

namespace Video

/-! ## Colours from scratch -/

/-- The host colour of a shade, of which the upper five bits of a component count. -/
def shadeColour (v : Video) (c : Rgb) : UInt32 :=
  v.hostColour { kind := .shade, red := c.red / 8, green := c.green / 8, blue := c.blue / 8 }

/-- The host colour of colour number `n` of a palette register: two bits of it choose the shade. -/
def registerColour (v : Video) (shades : Shades) (register : UInt8) (n : Nat) : UInt32 :=
  v.shadeColour (shades.get ⟨register.toNat / 4 ^ n % 4, Nat.mod_lt _ (by decide)⟩)

/-- The host colour of colour number `n` of a palette in colour memory: two bytes, the low one
first, with five bits for each component and red lowest. -/
def memoryColour (v : Video) (kind : ColourKind) (memory : Vector UInt8 0x40) (palette n : Nat) :
    UInt32 :=
  let place := 8 * palette + 2 * n
  let raw := (memory.toArray.getD place 0).toNat + 256 * (memory.toArray.getD (place + 1) 0).toNat
  v.hostColour
    { kind := kind
      red := (raw % 32).toUInt8
      green := (raw / 32 % 32).toUInt8
      blue := (raw / 1024 % 32).toUInt8 }

/-- The colour of a line where nothing is drawn, from scratch. -/
def blankAnew (v : Video) : UInt32 :=
  if v.model = .gbc then v.memoryColour .background v.bgColours 0 0
  else v.shadeColour (v.palette.bg.get 0)

/-- The colour of a pixel of a plane, from scratch. -/
def planeAnew (v : Video) (p : TilePixel) : UInt32 :=
  if v.model = .gbc then v.memoryColour .background v.bgColours p.palette.toNat p.colour.toNat
  else v.registerColour v.palette.bg v.bgp p.colour.toNat

/-- The colour of an object's colour number, from scratch. -/
def objectAnew (v : Video) (o : SpriteEntry) (colour : UInt8) : UInt32 :=
  if v.model = .gbc then v.memoryColour .object v.objColours (o.flags.toNat % 8) colour.toNat
  else if o.flags.toNat.testBit 4 then v.registerColour v.palette.obj1 v.obp1 colour.toNat
  else v.registerColour v.palette.obj0 v.obp0 colour.toNat

/-- Every colour that unit `w` reads while it draws a line is the one that unit `v` has from
scratch. -/
structure ReadsAnew (w v : Video) : Prop where
  blank : w.blankColour = v.blankAnew
  background : ∀ x, w.planeColour (w.backgroundPixel x) = v.planeAnew (v.backgroundPixel x)
  window : ∀ x, w.planeColour (w.windowPixel x) = v.planeAnew (v.windowPixel x)
  objects : ∀ o px,
    w.objectHostColour o (w.objectColour o px) = v.objectAnew o (v.objectColour o px)

theorem shadeCall_eq (c : Rgb) : shadeCall c =
    { kind := .shade, red := c.red / 8, green := c.green / 8, blue := c.blue / 8 } := by
  have upper (b : UInt8) : b >>> 3 = b / 8 := by
    apply UInt8.toNat_inj.mp
    rw [UInt8.toNat_shiftRight, UInt8.toNat_div, Nat.shiftRight_eq_div_pow]
    rfl
  rw [shadeCall, upper, upper, upper]

/-- Resolving a shade. -/
theorem resolveShades_getElem? (v : Video) (shades : Shades) (i : Fin 4) :
    (v.resolveShades shades)[i.val]? = some (v.shadeColour (shades.get i)) := by
  rw [resolveShades, Vector.getElem?_map, Vector.getElem?_eq_getElem i.isLt, Option.map_some,
    shadeCall_eq]
  rfl

/-- Two bits of a palette register, shifted down. -/
theorem registerBits (register : UInt8) {n : Nat} (h : n < 4) :
    ((register >>> (2 * n).toUInt8) &&& 0x03).toNat = register.toNat / 4 ^ n % 4 := by
  have few : (2 * n).toUInt8.toNat % 8 = 2 * n := by
    have small : (2 * n).toUInt8.toNat = 2 * n := Nat.mod_eq_of_lt (by omega)
    rw [small]
    omega
  have four : 2 ^ (2 * n) = 4 ^ n := Nat.pow_mul 2 2 n
  rw [UInt8.toNat_and, UInt8.toNat_shiftRight, few, Nat.shiftRight_eq_div_pow, four]
  exact Nat.and_two_pow_sub_one_eq_mod _ 2

/-- Resolving the colours of a palette register. -/
theorem registerColour_eq (v : Video) (shades : Shades) (register : UInt8) {n : Nat} (h : n < 4) :
    (applyRegister (v.resolveShades shades) register).toArray.getD n 0 =
      v.registerColour shades register n := by
  rw [Array.getD_eq_getD_getElem?, Vector.getElem?_toArray, applyRegister,
    Vector.getElem?_ofFn, dif_pos h, Option.getD_some, registerBits register h]
  exact congrArg (·.getD 0) (resolveShades_getElem? v shades ⟨_, Nat.mod_lt _ (by decide)⟩)

/-- The components of a colour as the number that its two bytes make. -/
theorem unpackColour_eq (kind : ColourKind) (low high : UInt8) :
    unpackColour kind low high =
      { kind := kind
        red := ((low.toNat + 256 * high.toNat) % 32).toUInt8
        green := ((low.toNat + 256 * high.toNat) / 32 % 32).toUInt8
        blue := ((low.toNat + 256 * high.toNat) / 1024 % 32).toUInt8 } := by
  have part (shift : UInt16) (bits : Nat) (few : shift.toNat % 16 = bits) :
      ((word high low >>> shift) &&& 0x1F).toUInt8 =
        ((low.toNat + 256 * high.toNat) / 2 ^ bits % 32).toUInt8 := by
    apply UInt8.toNat_inj.mp
    rw [UInt16.toNat_toUInt8, and_ones (n := 5) rfl, UInt16.toNat_shiftRight, few, word_toNat,
      Nat.shiftRight_eq_div_pow, Nat.add_comm]
    rfl
  have red : (word high low &&& 0x1F).toUInt8 =
      ((low.toNat + 256 * high.toNat) % 32).toUInt8 := by
    have whole := part 0 0 rfl
    rwa [UInt16.shiftRight_zero, Nat.pow_zero, Nat.div_one] at whole
  simp only [unpackColour, red, part 5 5 rfl, part 10 10 rfl, Nat.reducePow]

/-- Resolving the colours of a colour memory. -/
theorem memoryColour_eq (v : Video) (kind : ColourKind) (memory : Vector UInt8 0x40)
    (palette n : Nat) :
    v.hostColour (entryCall kind memory (palette * 4 + n)) =
      v.memoryColour kind memory palette n := by
  have place : 2 * (palette * 4 + n) = 8 * palette + 2 * n := by omega
  rw [entryCall, place, unpackColour_eq]
  rfl

/-! ## What is marked -/

/-- Every colour, resolved from scratch. -/
def anew (v : Video) : ColourCache :=
  { bgShades := v.resolveShades v.palette.bg
    obj0Shades := v.resolveShades v.palette.obj0
    obj1Shades := v.resolveShades v.palette.obj1
    bgp := applyRegister (v.resolveShades v.palette.bg) v.bgp
    obp0 := applyRegister (v.resolveShades v.palette.obj0) v.obp0
    obp1 := applyRegister (v.resolveShades v.palette.obj1) v.obp1
    background := Vector.ofFn fun i => v.hostColour (v.backgroundCall i.val)
    objects := Vector.ofFn fun i => v.hostColour (v.objectCall i.val)
    stale := .none }

end Video

/-- What is not marked in the one cache is as in the other. The colours of a palette register are
made of the shades, so that they count as marked with these; colour memory matters on colour models
alone. -/
structure ColourCache.Follows (c anew : ColourCache) (colour : Bool) : Prop where
  bgShades : c.stale.shades = false → c.bgShades = anew.bgShades
  obj0Shades : c.stale.shades = false → c.obj0Shades = anew.obj0Shades
  obj1Shades : c.stale.shades = false → c.obj1Shades = anew.obj1Shades
  bgp : (c.stale.bgp || c.stale.shades) = false → c.bgp = anew.bgp
  obp0 : (c.stale.obp0 || c.stale.shades) = false → c.obp0 = anew.obp0
  obp1 : (c.stale.obp1 || c.stale.shades) = false → c.obp1 = anew.obp1
  background : colour = true → c.stale.background = false → c.background = anew.background
  objects : colour = true → c.stale.objects = false → c.objects = anew.objects

namespace Video

variable {v w : Video}

/-- Every resolved colour that is not marked is the one that would be resolved now. -/
def Fresh (v : Video) : Prop :=
  v.cache.Follows v.anew v.isColour

/-- With everything marked there is nothing to show. -/
theorem spoilColours_fresh (v : Video) : v.spoilColours.Fresh where
  bgShades marked := nomatch marked
  obj0Shades marked := nomatch marked
  obj1Shades marked := nomatch marked
  bgp marked := nomatch marked
  obp0 marked := nomatch marked
  obp1 marked := nomatch marked
  background _ marked := nomatch marked
  objects _ marked := nomatch marked

/-! ## Resolving what is marked -/

theorem unless_marked {α : Type} {marked : Bool} {fresh kept : α}
    (h : marked = false → kept = fresh) : (if marked = true then fresh else kept) = fresh := by
  split
  · rfl
  next unmarked => exact h (Bool.eq_false_of_not_eq_true unmarked)

/-- The colours of a palette register, resolved from shades that have been brought up to date. -/
theorem register_unless_marked {shades own : Bool} {fresh kept colours : Vector UInt32 4}
    {register : UInt8} (h : shades = false → kept = fresh)
    (h' : (own || shades) = false → colours = applyRegister fresh register) :
    (if (own || shades) = true then
        applyRegister (if shades = true then fresh else kept) register
      else colours) = applyRegister fresh register := by
  rw [unless_marked h]
  exact unless_marked h'

/-- Resolving what is marked is resolving everything. -/
theorem Fresh.resolved_follows (h : v.Fresh) : v.resolved.Follows v.anew v.isColour where
  bgShades _ := unless_marked h.bgShades
  obj0Shades _ := unless_marked h.obj0Shades
  obj1Shades _ := unless_marked h.obj1Shades
  bgp _ := register_unless_marked h.bgShades h.bgp
  obp0 _ := register_unless_marked h.obj0Shades h.obp0
  obp1 _ := register_unless_marked h.obj1Shades h.obp1
  background on _ := by
    simp only [resolved, on, Bool.true_and]
    exact unless_marked (h.background on)
  objects on _ := by
    simp only [resolved, on, Bool.true_and]
    exact unless_marked (h.objects on)

/-- It makes no difference how much is marked. -/
theorem Fresh.resolved_spoil (h : v.Fresh) : v.resolved = v.spoilColours.resolved := by
  have all := h.resolved_follows
  have spoilt := v.spoilColours_fresh.resolved_follows
  have memory : v.resolved.background = v.spoilColours.resolved.background ∧
      v.resolved.objects = v.spoilColours.resolved.objects := by
    have model : v.spoilColours.isColour = v.isColour := rfl
    cases colour : v.isColour with
    | true =>
      exact ⟨(all.background colour rfl).trans (spoilt.background colour rfl).symm,
        (all.objects colour rfl).trans (spoilt.objects colour rfl).symm⟩
    | false =>
      simp only [resolved, model, colour, Bool.false_and]
      exact ⟨rfl, rfl⟩
  simp only [resolved, ColourCache.mk.injEq]
  exact ⟨all.bgShades rfl, all.obj0Shades rfl, all.obj1Shades rfl, all.bgp rfl, all.obp0 rfl,
    all.obp1 rfl, memory.1, memory.2, trivial⟩

theorem stale_none_of_any {s : Stale} (h : s.any = false) : s = .none := by
  cases s
  simpa [Stale.any, Stale.none, and_assoc] using h

/-- Where nothing is marked, nothing is resolved. -/
theorem resolved_of_none (none : v.cache.stale = .none) : v.resolved = v.cache := by
  calc v.resolved = { v.cache with stale := .none } := by
        simp only [resolved, none, Stale.none, Bool.or_false, Bool.and_false, Bool.false_eq_true,
          if_false]
    _ = v.cache := by rw [← none]

theorem refreshColours_cache (v : Video) : v.refreshColours.cache = v.resolved := by
  unfold refreshColours
  split
  · rfl
  next unmarked =>
    exact (resolved_of_none (stale_none_of_any (Bool.eq_false_of_not_eq_true unmarked))).symm

/-- Neither the picture nor the calls of the tint have a part in colours, as long as the conversion
stays the same. -/
theorem anew_congr (cache : ColourCache) (screen : Option PixelBuffer) (tint : Option Tint)
    (host : ∀ call, hostColour { v with cache, screen, tint } call = v.hostColour call) :
    anew { v with cache, screen, tint } = v.anew := by
  have same : hostColour { v with cache, screen, tint } = v.hostColour := funext host
  simp only [anew, resolveShades, backgroundCall, objectCall, same]

theorem refreshColours_anew (v : Video) : v.refreshColours.anew = v.anew := by
  unfold refreshColours
  split
  · refine anew_congr v.resolved v.screen _ fun call => ?_
    simp only [hostColour]
    cases v.tint <;> rfl
  · rfl

theorem refreshColours_isColour (v : Video) : v.refreshColours.isColour = v.isColour := by
  obtain ⟨cache, tint, refreshed⟩ := refreshColours_eq v
  rw [refreshed]
  rfl

/-- Resolving keeps a unit fresh. -/
theorem Fresh.refresh (h : v.Fresh) : v.refreshColours.Fresh := by
  unfold Fresh
  rw [refreshColours_cache, refreshColours_anew, refreshColours_isColour]
  exact h.resolved_follows

/-! ## Reading -/

theorem colourNumber_lt (low high bit : UInt8) : (colourNumber low high bit).toNat < 4 := by
  have one (b : UInt8) : b &&& 1 = 0 ∨ b &&& 1 = 1 := by
    have bit : (b &&& 1).toNat = b.toNat % 2 := (UInt8.toNat_and b 1).trans (Nat.and_one_is_mod _)
    rw [← UInt8.toNat_inj, ← UInt8.toNat_inj, bit]
    exact Nat.mod_two_eq_zero_or_one b.toNat
  unfold colourNumber
  rcases one (high >>> bit) with high | high <;> rcases one (low >>> bit) with low | low <;>
    rw [high, low] <;> decide

/-- Palettes have numbers below eight, and colours below four. -/
theorem planePixel_lt (v : Video) (base x y : Nat) :
    (v.planePixel base x y).palette.toNat < 8 ∧ (v.planePixel base x y).colour.toNat < 4 := by
  refine ⟨?_, colourNumber_lt _ _ _⟩
  change (_ &&& (7 : UInt8)).toNat < 8
  rw [UInt8.toNat_and]
  exact Nat.lt_succ_of_le Nat.and_le_right

/-- A colour memory that has been resolved. -/
theorem entries_getD (v : Video) (kind : ColourKind) (memory : Vector UInt8 0x40)
    {palette n : Nat} (hp : palette < 8) (hn : n < 4) :
    (Vector.ofFn fun i : Fin 32 => v.hostColour (entryCall kind memory i.val)).toArray.getD
      (palette * 4 + n) 0 = v.memoryColour kind memory palette n := by
  rw [Array.getD_eq_getD_getElem?, Vector.getElem?_toArray, Vector.getElem?_ofFn,
    dif_pos (by omega), Option.getD_some]
  exact memoryColour_eq v kind memory palette n

theorem Fresh.blankColour (h : v.Fresh) : v.refreshColours.blankColour = v.blankAnew := by
  have all := h.resolved_follows
  unfold Video.blankColour blankAnew
  simp only [refreshColours_isColour, refreshColours_cache, isColour_iff]
  split
  next colour =>
    rw [all.background ((isColour_iff v).mpr colour) rfl]
    exact @entries_getD v .background v.bgColours 0 0 (by decide) (by decide)
  · rw [all.bgShades rfl, Array.getD_eq_getD_getElem?, Vector.getElem?_toArray]
    exact congrArg (·.getD 0) (resolveShades_getElem? v v.palette.bg 0)

theorem Fresh.planeColour (h : v.Fresh) {p : TilePixel} (palette : p.palette.toNat < 8)
    (colour : p.colour.toNat < 4) : v.refreshColours.planeColour p = v.planeAnew p := by
  have all := h.resolved_follows
  unfold Video.planeColour planeAnew
  simp only [refreshColours_isColour, refreshColours_cache, isColour_iff]
  split
  next model =>
    rw [all.background ((isColour_iff v).mpr model) rfl]
    exact entries_getD v .background v.bgColours palette colour
  · rw [all.bgp rfl]
    exact registerColour_eq v v.palette.bg v.bgp colour

theorem Fresh.objectHostColour (h : v.Fresh) (o : SpriteEntry) {colour : UInt8}
    (small : colour.toNat < 4) :
    v.refreshColours.objectHostColour o colour = v.objectAnew o colour := by
  have all := h.resolved_follows
  have group : (o.flags &&& 0x07).toNat = o.flags.toNat % 8 :=
    (UInt8.toNat_and o.flags 7).trans (Nat.and_two_pow_sub_one_eq_mod _ 3)
  have second : hasBit o.flags 0x10 = o.flags.toNat.testBit 4 := hasBit_bit rfl o.flags
  unfold Video.objectHostColour objectAnew
  simp only [refreshColours_isColour, refreshColours_cache, isColour_iff, group, second]
  split
  next model =>
    rw [all.objects ((isColour_iff v).mpr model) rfl]
    exact entries_getD v .object v.objColours (Nat.mod_lt _ (by decide)) small
  split
  · rw [all.obp1 rfl]
    exact registerColour_eq v v.palette.obj1 v.obp1 small
  · rw [all.obp0 rfl]
    exact registerColour_eq v v.palette.obj0 v.obp0 small

/-- Of a unit that is fresh, every colour that a line is drawn in is the one made from scratch. -/
theorem Fresh.readsAnew (h : v.Fresh) : v.refreshColours.ReadsAnew v := by
  obtain ⟨cache, tint, refreshed⟩ := refreshColours_eq v
  have background (x : Nat) : v.refreshColours.backgroundPixel x = v.backgroundPixel x := by
    rw [refreshed]
    rfl
  have window (x : Nat) : v.refreshColours.windowPixel x = v.windowPixel x := by
    rw [refreshed]
    rfl
  have object (o : SpriteEntry) (px : Nat) :
      v.refreshColours.objectColour o px = v.objectColour o px := by
    rw [refreshed]
    rfl
  refine ⟨h.blankColour, fun x => ?_, fun x => ?_, fun o px => ?_⟩
  · obtain ⟨palette, colour⟩ := v.planePixel_lt (mapBase (hasBit v.lcdc 0x08))
      ((x + v.scx.toNat) % 256) ((v.ly.toNat + v.scy.toNat) % 256)
    rw [background]
    exact h.planeColour palette colour
  · obtain ⟨palette, colour⟩ := v.planePixel_lt (mapBase (hasBit v.lcdc 0x40))
      (x + 7 - v.wx.toNat) v.windowLine.toNat
    rw [window]
    exact h.planeColour palette colour
  · rw [object]
    exact h.objectHostColour o (colourNumber_lt _ _ _)

end Video
end DotMatrix
