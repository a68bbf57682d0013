import DotMatrix.Proofs.Word
import DotMatrix.Video.Tile

/-!
# The tile matrix

A bank of video memory holds 384 tiles of eight by eight pixels, and behind them two maps. Here a
tile is a matrix of colour numbers and a plane is a function of a column and a row, without the
arithmetic of places and shifts that the drawing does; the two are proved equal.

Results:
* `colourNumber_toNat`: the two bits of a colour number.
* `tileBase_eq`: numbered from 0 or with a sign, a tile is one of the 384.
* **`planePixel_eq`**: what the drawing takes for a pixel of a plane is that pixel.
* **`plane_readsWithin`**: it takes it from within video memory, whatever the registers and the maps
  hold.
-/

namespace DotMatrix

namespace Video

/-- What `f` takes from video memory it takes from some places alone, and these lie within. -/
structure ReadsWithin {α : Type} (v : Video) (places : List Nat) (f : Video → α) : Prop where
  inside : ∀ place ∈ places, place < vramSize
  only : ∀ vram : Array UInt8,
    (∀ place ∈ places, { v with vram }.vramAt place = v.vramAt place) → f { v with vram } = f v

/-! ## Tiles -/

/-- Where row `row` of tile `index` of a bank starts. -/
def tilePlace (bank index row : Nat) : Nat :=
  bank * bankSize + 16 * index + 2 * row

/-- The colour number at a column and a row of a tile: the leftmost column is the highest bit of two
bytes, the second of which counts double. -/
def tilePixel (v : Video) (bank index col row : Nat) : Nat :=
  2 * ((v.vramAt (tilePlace bank index row + 1)).toNat.testBit (7 - col)).toNat +
    ((v.vramAt (tilePlace bank index row)).toNat.testBit (7 - col)).toNat

/-- A column or a row of a tile, counted from the other side if it is mirrored. -/
def mirrored (flip : Bool) (n : Nat) : Nat :=
  if flip then 7 - n else n

theorem mirrored_lt {n : Nat} (flip : Bool) (h : n < 8) : mirrored flip n < 8 := by
  unfold mirrored
  split <;> omega

theorem tilePixel_lt (v : Video) (bank index col row : Nat) :
    v.tilePixel bank index col row < 4 := by
  have bit (b : Bool) : b.toNat ≤ 1 := Bool.toNat_le b
  unfold tilePixel
  have high := bit ((v.vramAt (tilePlace bank index row + 1)).toNat.testBit (7 - col))
  have low := bit ((v.vramAt (tilePlace bank index row)).toNat.testBit (7 - col))
  omega

/-- A tile has its colour numbers from the two bytes of their row. -/
theorem tilePixel_congr {v : Video} {vram : Array UInt8} {bank index row : Nat} (col : Nat)
    (low : { v with vram }.vramAt (tilePlace bank index row) = v.vramAt (tilePlace bank index row))
    (high : { v with vram }.vramAt (tilePlace bank index row + 1) =
      v.vramAt (tilePlace bank index row + 1)) :
    { v with vram }.tilePixel bank index col row = v.tilePixel bank index col row := by
  unfold tilePixel
  rw [low, high]

/-- The rows of the tiles of both banks lie in video memory. -/
theorem tilePlace_lt {bank index row : Nat} (banked : bank ≤ 1) (tile : index < 384) (h : row < 8) :
    tilePlace bank index row + 1 < vramSize := by
  unfold tilePlace bankSize vramSize
  omega

/-- The two bits of a colour number. -/
theorem colourNumber_toNat (low high : UInt8) {n : Nat} (h : n < 8) :
    (colourNumber low high n.toUInt8).toNat =
      2 * (high.toNat.testBit n).toNat + (low.toNat.testBit n).toNat := by
  unfold colourNumber
  rw [UInt8.toNat_or, UInt8.toNat_shiftLeft, shiftRight_and_one high h, shiftRight_and_one low h]
  cases high.toNat.testBit n <;> cases low.toNat.testBit n <;> rfl

/-- A colour number from a row of a tile, with the columns mirrored or not. -/
theorem colourNumber_tile (v : Video) {bank index row col : Nat} (flip : Bool) (h : col < 8) :
    colourNumber (v.vramAt (tilePlace bank index row)) (v.vramAt (tilePlace bank index row + 1))
        (if flip then col else 7 - col).toUInt8 =
      (v.tilePixel bank index (mirrored flip col) row).toUInt8 := by
  have bit : (if flip = true then col else 7 - col) = 7 - mirrored flip col := by
    unfold mirrored
    split <;> omega
  have small := v.tilePixel_lt bank index (mirrored flip col) row
  apply UInt8.toNat_inj.mp
  rw [bit, colourNumber_toNat _ _ (by omega)]
  exact (Nat.mod_eq_of_lt (Nat.lt_of_lt_of_le small (by decide))).symm

/-! ## Planes -/

/-- The tile that a number names: counted from 0, or with a sign from the 256th. -/
def tileIndex (v : Video) (number : UInt8) : Nat :=
  if v.lcdc.toNat.testBit 4 then number.toNat else (256 + number.toInt8.toInt).toNat

/-- Where a map has the number of the tile at a column and a row of its plane. -/
def mapPlace (map x y : Nat) : Nat :=
  map + 32 * (y / 8) + x / 8

/-- The attributes of the tile at a column and a row of a plane. -/
def cellAttributes (v : Video) (map x y : Nat) : UInt8 :=
  if v.model = .gbc then v.vramAt (bankSize + mapPlace map x y) else 0

/-- Where the row of a tile lies that a plane shows at a column and a row. -/
def planePlace (v : Video) (map x y : Nat) : Nat :=
  let attributes := (v.cellAttributes map x y).toNat
  tilePlace (attributes.testBit 3).toNat (v.tileIndex (v.vramAt (mapPlace map x y)))
    (mirrored (attributes.testBit 6) (y % 8))

/-- The pixel at a column and a row of a plane: the map has the number of its tile, and its
attributes mirror the tile, take it from a bank, and give it a palette and a priority. -/
def plane (v : Video) (map x y : Nat) : TilePixel :=
  let attributes := (v.cellAttributes map x y).toNat
  let tile := v.tileIndex (v.vramAt (mapPlace map x y))
  { colour := (v.tilePixel (attributes.testBit 3).toNat tile
      (mirrored (attributes.testBit 5) (x % 8)) (mirrored (attributes.testBit 6) (y % 8))).toUInt8
    palette := (attributes % 8).toUInt8
    priority := attributes.testBit 7 }

/-- The places of video memory that a pixel of a plane is taken from. -/
def planeReads (v : Video) (map x y : Nat) : List Nat :=
  [mapPlace map x y] ++ (if v.model = .gbc then [bankSize + mapPlace map x y] else []) ++
    [v.planePlace map x y, v.planePlace map x y + 1]

theorem tileIndex_lt (v : Video) (number : UInt8) : v.tileIndex number < 384 := by
  have small := number.toNat_lt
  have signed : number.toInt8.toInt < 128 := Int8.toInt_lt _
  unfold tileIndex
  split <;> omega

/-- Numbered from 0 or with a sign, a tile is one of the 384. -/
theorem tileBase_eq (v : Video) (number : UInt8) : v.tileBase number = 16 * v.tileIndex number := by
  have small := number.toNat_lt
  unfold tileBase tileIndex
  rw [hasBit_bit (i := 4) rfl, toInt8_toInt]
  have half : number < 0x80 ↔ number.toNat < 128 := UInt8.lt_iff_toNat_lt
  simp only [half]
  split
  · exact Nat.mul_comm ..
  · split <;> omega

theorem attributesAt_eq (v : Video) (map x y : Nat) :
    v.attributesAt (mapPlace map x y) = v.cellAttributes map x y := by
  unfold attributesAt cellAttributes isColour Model.isColour
  cases v.model <;> rfl

theorem bank_eq (b : Bool) : (if b = true then bankSize else 0) = b.toNat * bankSize := by
  cases b <;> rfl

theorem tileRow_eq (v : Video) (map x y : Nat) :
    v.tileRow (mapPlace map x y) (y % 8) = v.planePlace map x y := by
  unfold tileRow planePlace tilePlace mirrored
  simp only [attributesAt_eq, tileBase_eq, hasBit_bit (show (0x08 : UInt8).toNat = 2 ^ 3 from rfl),
    hasBit_bit (show (0x40 : UInt8).toNat = 2 ^ 6 from rfl), bank_eq, Nat.mul_comm _ 2]

/-- **What the drawing takes for a pixel of a plane is that pixel.** -/
theorem planePixel_eq (v : Video) (map x y : Nat) : v.planePixel map x y = v.plane map x y := by
  have place : map + y / 8 * 32 + x / 8 = mapPlace map x y := by
    unfold mapPlace
    rw [Nat.mul_comm]
  have low (b : UInt8) : b &&& 0x07 = (b.toNat % 8).toUInt8 := by
    apply UInt8.toNat_inj.mp
    rw [UInt8.toNat_and]
    change b.toNat &&& 2 ^ 3 - 1 = b.toNat % 8 % 256
    rw [Nat.and_two_pow_sub_one_eq_mod]
    omega
  unfold planePixel plane
  simp only [place, tileRow_eq, attributesAt_eq, low,
    hasBit_bit (show (0x80 : UInt8).toNat = 2 ^ 7 from rfl),
    hasBit_bit (show (0x20 : UInt8).toNat = 2 ^ 5 from rfl)]
  rw [planePlace, colourNumber_tile v _ (Nat.mod_lt x (by decide))]

theorem planeReads_lt (v : Video) (upper : Bool) {x y : Nat} (hx : x < 256) (hy : y < 256) :
    ∀ place ∈ v.planeReads (mapBase upper) x y, place < vramSize := by
  have map : mapPlace (mapBase upper) x y < bankSize := by
    unfold mapPlace mapBase bankSize
    split <;> omega
  have both : vramSize = bankSize + bankSize := rfl
  have row : v.planePlace (mapBase upper) x y + 1 < vramSize :=
    tilePlace_lt (Bool.toNat_le _) (v.tileIndex_lt _)
      (mirrored_lt _ (Nat.mod_lt y (by decide)))
  have attributes : ∀ place ∈
      (if v.model = .gbc then [bankSize + mapPlace (mapBase upper) x y] else []),
      place < vramSize := by
    split
    · simp only [List.mem_singleton, forall_eq]
      omega
    · simp
  unfold planeReads
  simp only [List.mem_append, List.mem_cons, List.not_mem_nil, or_false]
  rintro place ((rfl | colour) | rfl | rfl)
  · omega
  · exact attributes place colour
  · omega
  · exact row

/-- Another video memory that is the same at the places of a pixel gives the same pixel. -/
theorem plane_congr {v : Video} {vram : Array UInt8} {map x y : Nat}
    (same : ∀ place ∈ v.planeReads map x y, { v with vram }.vramAt place = v.vramAt place) :
    { v with vram }.plane map x y = v.plane map x y := by
  have number := same (mapPlace map x y) (by simp [planeReads])
  have low := same (v.planePlace map x y) (by simp [planeReads])
  have high := same (v.planePlace map x y + 1) (by simp [planeReads])
  have attributes : { v with vram }.cellAttributes map x y = v.cellAttributes map x y := by
    unfold cellAttributes
    by_cases colour : v.model = .gbc
    · rw [if_pos colour, if_pos colour]
      exact same (bankSize + mapPlace map x y) (by simp [planeReads, colour])
    · rw [if_neg colour, if_neg colour]
  have tile : { v with vram }.tileIndex (v.vramAt (mapPlace map x y)) =
      v.tileIndex (v.vramAt (mapPlace map x y)) := rfl
  unfold plane
  simp only [attributes, number, tile, tilePixel_congr _ low high]

/-- **A pixel of a plane is taken from within video memory**, whatever the registers and the maps
hold. -/
theorem plane_readsWithin (v : Video) (upper : Bool) {x y : Nat} (hx : x < 256) (hy : y < 256) :
    v.ReadsWithin (v.planeReads (mapBase upper) x y) (·.plane (mapBase upper) x y) :=
  ⟨v.planeReads_lt upper hx hy, fun _ => plane_congr⟩

end Video

end DotMatrix
