import DotMatrix.Proofs.Video.Backdrop
import DotMatrix.Proofs.Video.Priority

/-!
# The object that is seen

Objects are painted over a line one after another, column by column, with a mark where one is
already. Seen from one column of the line this is a choice: of the objects of the line, the first
that shows there. Objects are told by their numbers in object memory.

Results:
* `paintObjects_getElem?`: what the painting does at one column.
* `objectColour_eq`: the colour number of an object, from the tile matrix.
* `paints_iff`: an object is painted where it shows.
* **`lineColours_getElem?`**: a line shows the first object in priority, and else the backdrop.
-/

namespace DotMatrix

namespace Video

/-! ## What an object shows -/

/-- The attributes of object `i`. -/
def objectFlags (v : Video) (i : Nat) : Nat :=
  (v.oamAt (4 * i + 3)).toNat

/-- The row of object `i` that the present line shows, counted from below if it is mirrored. -/
def objectLine (v : Video) (i : Nat) : Nat :=
  let row := v.ly.toNat + 16 - (v.oamAt (4 * i)).toNat
  if (v.objectFlags i).testBit 6 then v.objectHeight - 1 - row else row

/-- The tile of object `i` that the present line shows. A tall object has a pair of them. -/
def objectTile (v : Video) (i : Nat) : Nat :=
  if v.objectHeight = 16 then 2 * ((v.oamAt (4 * i + 2)).toNat / 2) + v.objectLine i / 8
  else (v.oamAt (4 * i + 2)).toNat

/-- The bank of the tile of object `i`. -/
def objectBank (v : Video) (i : Nat) : Nat :=
  if v.model = .gbc ∧ (v.objectFlags i).testBit 3 = true then 1 else 0

/-- Where the row of object `i` lies that the present line shows. -/
def objectPlace (v : Video) (i : Nat) : Nat :=
  tilePlace (v.objectBank i) (v.objectTile i) (v.objectLine i % 8)

/-- The colour number of object `i` at column `x` of the present line. -/
def objectPixel (v : Video) (i x : Nat) : Nat :=
  v.tilePixel (v.objectBank i) (v.objectTile i)
    (mirrored ((v.objectFlags i).testBit 5) (x + 8 - v.objectX i)) (v.objectLine i % 8)

/-- Object `i` yields to the backdrop of column `x`: this is not of colour 0, objects do not go
before everything, and the object is to go behind, or the tile of the backdrop before. -/
def Yields (v : Video) (i x : Nat) : Prop :=
  ∃ p ∈ v.backdrop x, p.colour ≠ 0 ∧ ¬ (v.model = .gbc ∧ v.lcdc.toNat.testBit 0 = false) ∧
    ((v.objectFlags i).testBit 7 = true ∨ v.model = .gbc ∧ p.priority = true)

/-- Object `i` shows at column `x` of the present line. -/
structure Shows (v : Video) (i x : Nat) : Prop where
  selected : v.Selected i
  column : v.objectX i ≤ x + 8 ∧ x + 8 < v.objectX i + 8
  seen : v.objectPixel i x ≠ 0
  before : ¬ v.Yields i x

/-- Object `i` is the first in priority that shows at column `x` of the present line. -/
structure Wins (v : Video) (i x : Nat) : Prop where
  shows : v.Shows i x
  first : ∀ j, v.Shows j x → j ≠ i → v.Before i j

/-- Objects are enabled, by bit 1 of LCDC and by the host. -/
def ObjectsEnabled (v : Video) : Prop :=
  v.lcdc.toNat.testBit 1 = true ∧ v.layers.obj = true

/-- The places of video memory that the row of object `i` is taken from. -/
def objectReads (v : Video) (i : Nat) : List Nat :=
  [v.objectPlace i, v.objectPlace i + 1]

theorem objectsOn_iff (v : Video) : v.objectsOn = true ↔ v.ObjectsEnabled := by
  unfold objectsOn
  rw [Bool.and_eq_true, hasBit_bit (i := 1) rfl]
  rfl

/-- There is one object at most that is the first. -/
theorem Wins.unique {v : Video} {i j x : Nat} (hi : v.Wins i x) (hj : v.Wins j x) : i = j := by
  by_contra ne
  exact (hi.first j hj.shows (Ne.symm ne)).asymm (hj.first i hi.shows ne)

theorem objectHeight_cases (v : Video) : v.objectHeight = 16 ∨ v.objectHeight = 8 := by
  unfold objectHeight
  split
  · exact .inl rfl
  · exact .inr rfl

/-- A row that is shown is a row of the object. -/
theorem objectLine_lt {v : Video} {i : Nat} (covers : v.Covers i) :
    v.objectLine i < v.objectHeight := by
  obtain ⟨top, bottom⟩ := covers
  simp only [objectLine]
  split <;> omega

theorem objectTile_lt {v : Video} {i : Nat} (covers : v.Covers i) : v.objectTile i < 256 := by
  have row := objectLine_lt covers
  have small := (v.oamAt (4 * i + 2)).toNat_lt
  unfold objectTile
  split <;> omega

/-- An object that is drawn is taken from within video memory. -/
theorem objectPixel_readsWithin {v : Video} {i : Nat} (covers : v.Covers i) (x : Nat) :
    v.ReadsWithin (v.objectReads i) (·.objectPixel i x) := by
  have bank : v.objectBank i ≤ 1 := by
    unfold objectBank
    split <;> decide
  have row : v.objectPlace i + 1 < vramSize :=
    tilePlace_lt bank (Nat.lt_trans (objectTile_lt covers) (by decide))
      (Nat.mod_lt (v.objectLine i) (by decide))
  constructor
  · simp only [objectReads, List.mem_cons, List.not_mem_nil, or_false]
    rintro place (rfl | rfl)
    · omega
    · exact row
  · intro vram same
    have low := same _ List.mem_cons_self
    have high := same _ (List.mem_cons_of_mem _ List.mem_cons_self)
    exact tilePixel_congr _ low high

/-! ## The object as it is drawn -/

theorem objectRow_eq (v : Video) (i : Nat) : v.objectRow (v.objectAt i) = v.objectLine i := by
  have row : ((v.ly.toNat : Int) - (v.objectAt i).y).toNat =
      v.ly.toNat + 16 - (v.oamAt (4 * i)).toNat := by
    change ((v.ly.toNat : Int) - ((v.oamAt (4 * i)).toNat - 16)).toNat = _
    omega
  have flip : hasBit (v.objectAt i).flags 0x40 = (v.objectFlags i).testBit 6 := hasBit_bit rfl _
  unfold objectRow objectLine
  rw [row, flip]

theorem objectBank_eq (v : Video) (i : Nat) :
    (if (v.isColour && hasBit (v.objectAt i).flags 0x08) = true then bankSize else 0) =
      v.objectBank i * bankSize := by
  have flag : hasBit (v.objectAt i).flags 0x08 = (v.objectFlags i).testBit 3 := hasBit_bit rfl _
  unfold objectBank
  rw [flag]
  simp only [Bool.and_eq_true, isColour_iff]
  split
  · exact (Nat.one_mul _).symm
  · exact (Nat.zero_mul _).symm

/-- Of the pair of tiles of a tall object the even one is the upper. -/
theorem objectTile_eq {v : Video} {i : Nat} (covers : v.Covers i) :
    ((if v.objectHeight = 16 then (v.objectAt i).tile &&& 0xFE else (v.objectAt i).tile) +
      (v.objectLine i / 8).toUInt8).toNat = v.objectTile i := by
  have line := objectLine_lt covers
  have small := (v.oamAt (4 * i + 2)).toNat_lt
  have half : (v.objectLine i / 8).toUInt8.toNat = v.objectLine i / 8 :=
    Nat.mod_eq_of_lt (by rcases v.objectHeight_cases with h | h <;> omega)
  unfold objectTile
  rw [UInt8.toNat_add, half]
  rcases v.objectHeight_cases with tall | short
  · rw [if_pos tall, if_pos tall]
    change ((v.oamAt (4 * i + 2) &&& 0xFE).toNat + _) % 256 = _
    rw [and_even]
    omega
  · rw [if_neg (by omega), if_neg (by omega)]
    change ((v.oamAt (4 * i + 2)).toNat + _) % 256 = _
    omega

theorem objectRowPlace_eq {v : Video} {i : Nat} (covers : v.Covers i) :
    v.objectRowPlace (v.objectAt i) = v.objectPlace i := by
  unfold objectRowPlace objectPlace tilePlace
  simp only [objectRow_eq, objectBank_eq, objectTile_eq covers]
  omega

/-- The colour number of an object, from the tile matrix. -/
theorem objectColour_eq {v : Video} {i x : Nat} (covers : v.Covers i)
    (column : v.objectX i ≤ x + 8 ∧ x + 8 < v.objectX i + 8) :
    v.objectColour (v.objectAt i) (x + 8 - v.objectX i) = (v.objectPixel i x).toUInt8 := by
  have flip : hasBit (v.objectAt i).flags 0x20 = (v.objectFlags i).testBit 5 := hasBit_bit rfl _
  unfold objectColour objectPixel
  simp only [objectRowPlace_eq covers, flip]
  exact colourNumber_tile v _ (by omega)

/-! ## The painting of a line -/

/-- Whether an object is painted over a pixel at column `x` of the line, where no object is yet. -/
def paints (v : Video) (x : Nat) (d : Dot) (o : SpriteEntry) : Bool :=
  decide (0 ≤ (x : Int) - o.x ∧ (x : Int) - o.x < 8) &&
    v.objectColour o ((x : Int) - o.x).toNat != 0 && !v.yieldsTo o d

/-- A pixel at column `x` of the line with an object painted over it. -/
def painted (v : Video) (x : Nat) (d : Dot) (o : SpriteEntry) : Dot :=
  { d with
    colour := v.objectHostColour o (v.objectColour o ((x : Int) - o.x).toNat)
    taken := true }

/-- A pixel at column `x` of the line after an object. -/
def paintAt (v : Video) (x : Nat) (d : Dot) (o : SpriteEntry) : Dot :=
  if 0 ≤ (x : Int) - o.x ∧ (x : Int) - o.x < 8 then
    v.paintDot o (v.objectColour o ((x : Int) - o.x).toNat) d
  else d

theorem paintColumn_getElem? (v : Video) (o : SpriteEntry) (dots : Array Dot) (px x : Nat) :
    (v.paintColumn o dots px)[x]? =
      if (x : Int) - o.x = px then dots[x]?.map (v.paintDot o (v.objectColour o px))
      else dots[x]? := by
  unfold paintColumn
  by_cases left : o.x + px < 0
  · rw [if_pos left, if_neg (by omega)]
  · have place : (o.x + px).toNat = x ↔ (x : Int) - o.x = px := by omega
    rw [if_neg left, Array.getElem?_modify]
    simp only [place]

/-- Of the first `n` columns of an object one at most is painted at column `x`. -/
theorem paintColumns_getElem? (v : Video) (o : SpriteEntry) (dots : Array Dot) (n x : Nat) :
    ((List.range n).foldl (v.paintColumn o) dots)[x]? =
      if 0 ≤ (x : Int) - o.x ∧ (x : Int) - o.x < n then
        dots[x]?.map (v.paintDot o (v.objectColour o ((x : Int) - o.x).toNat))
      else dots[x]? := by
  induction n with
  | zero => rw [if_neg (by omega), List.range_zero, List.foldl_nil]
  | succ n ih =>
    rw [List.range_succ, List.foldl_append, List.foldl_cons, List.foldl_nil, paintColumn_getElem?,
      ih]
    by_cases last : (x : Int) - o.x = n
    · have number : ((x : Int) - o.x).toNat = n := by omega
      rw [if_pos last, if_neg (by omega), if_pos (by omega), number]
    · rw [if_neg last]
      by_cases earlier : 0 ≤ (x : Int) - o.x ∧ (x : Int) - o.x < n
      · rw [if_pos earlier, if_pos (by omega)]
      · rw [if_neg earlier, if_neg (by omega)]

theorem paintObject_getElem? (v : Video) (o : SpriteEntry) (dots : Array Dot) (x : Nat) :
    (v.paintObject dots o)[x]? = dots[x]?.map fun d => v.paintAt x d o := by
  unfold paintObject
  rw [paintColumns_getElem?]
  by_cases column : 0 ≤ (x : Int) - o.x ∧ (x : Int) - o.x < 8
  · have all : (fun d => v.paintAt x d o) =
        v.paintDot o (v.objectColour o ((x : Int) - o.x).toNat) := funext fun d => if_pos column
    rw [all]
    exact if_pos column
  · have none : (fun d => v.paintAt x d o) = id := funext fun d => if_neg column
    rw [none, Option.map_id_fun]
    exact if_neg column

/-- What the painting does at one column. -/
theorem paintObjects_getElem? (v : Video) (os : List SpriteEntry) (dots : Array Dot) (x : Nat) :
    (os.foldl v.paintObject dots)[x]? = dots[x]?.map fun d => os.foldl (v.paintAt x) d := by
  induction os generalizing dots with
  | nil => exact Option.map_id'.symm
  | cons o os ih =>
    rw [List.foldl_cons, ih, paintObject_getElem?, Option.map_map]
    rfl

/-- Where an object is already, no other is painted. -/
theorem paintAt_taken {v : Video} {x : Nat} {d : Dot} (taken : d.taken = true)
    (os : List SpriteEntry) : os.foldl (v.paintAt x) d = d := by
  induction os with
  | nil => rfl
  | cons o os ih =>
    have same : v.paintAt x d o = d := by
      unfold paintAt paintDot
      simp [taken]
    rw [List.foldl_cons, same, ih]

theorem paintAt_free {v : Video} {x : Nat} {d : Dot} (free : d.taken = false) (o : SpriteEntry) :
    v.paintAt x d o = if v.paints x d o = true then v.painted x d o else d := by
  unfold paintAt paintDot paints painted
  by_cases column : 0 ≤ (x : Int) - o.x ∧ (x : Int) - o.x < 8
  · rw [if_pos column, free, decide_eq_true column, bne]
    cases v.objectColour o ((x : Int) - o.x).toNat == 0 <;> cases v.yieldsTo o d <;> rfl
  · rw [if_neg column, decide_eq_false column]
    rfl

/-- Where no object is yet, the first that is painted stays. -/
theorem paintAt_find {v : Video} {x : Nat} {d : Dot} (free : d.taken = false)
    (os : List SpriteEntry) :
    os.foldl (v.paintAt x) d = (os.find? (v.paints x d)).elim d (v.painted x d) := by
  induction os with
  | nil => rfl
  | cons o os ih =>
    rw [List.foldl_cons, paintAt_free free, List.find?_cons]
    cases v.paints x d o with
    | true => exact paintAt_taken rfl os
    | false => exact ih

/-! ## The choice at a column -/

theorem yieldsTo_iff (v : Video) (i x : Nat) :
    v.yieldsTo (v.objectAt i) (v.backgroundDot x) = true ↔ v.Yields i x := by
  have flag : hasBit (v.objectAt i).flags 0x80 = (v.objectFlags i).testBit 7 := hasBit_bit rfl _
  have first : hasBit v.lcdc 0x01 = v.lcdc.toNat.testBit 0 := hasBit_bit rfl _
  have ordered : (!v.isColour || v.lcdc.toNat.testBit 0) = true ↔
      ¬ (v.model = .gbc ∧ v.lcdc.toNat.testBit 0 = false) := by
    rw [← isColour_iff]
    cases v.isColour <;> simp
  unfold yieldsTo Yields
  rw [backgroundDot_eq, flag, first, Bool.and_eq_true, Bool.and_eq_true, ordered, Bool.or_eq_true,
    Bool.and_eq_true, isColour_iff]
  cases v.backdrop x with
  | none => simp
  | some p =>
    simp only [Option.all_some, Option.any_some, Option.mem_some_iff, exists_eq_left',
      Bool.not_eq_true', beq_eq_false_iff_ne, ne_eq]
    constructor
    · rintro ⟨⟨order, shown⟩, behind | before⟩
      · exact ⟨shown, order, .inr behind⟩
      · exact ⟨shown, order, .inl before⟩
    · rintro ⟨shown, order, before | behind⟩
      · exact ⟨⟨order, shown⟩, .inr before⟩
      · exact ⟨⟨order, shown⟩, .inl behind⟩

theorem objectPixel_toUInt8 (v : Video) (i x : Nat) :
    (v.objectPixel i x).toUInt8.toNat = v.objectPixel i x :=
  Nat.mod_eq_of_lt (Nat.lt_trans (v.tilePixel_lt _ _ _ _) (by decide))

theorem objectAt_column (v : Video) (i x : Nat) :
    ((x : Int) - (v.objectAt i).x).toNat = x + 8 - v.objectX i := by
  change ((x : Int) - ((v.objectX i : Int) - 8)).toNat = _
  omega

/-- An object is painted where it shows. -/
theorem paints_iff {v : Video} {i x : Nat} (selected : v.Selected i) :
    v.paints x (v.backgroundDot x) (v.objectAt i) = true ↔ v.Shows i x := by
  have within : (0 ≤ (x : Int) - (v.objectAt i).x ∧ (x : Int) - (v.objectAt i).x < 8) ↔
      v.objectX i ≤ x + 8 ∧ x + 8 < v.objectX i + 8 := by
    have place : (v.objectAt i).x = (v.objectX i : Int) - 8 := rfl
    rw [place]
    omega
  unfold paints
  rw [Bool.and_eq_true, Bool.and_eq_true, decide_eq_true_iff, bne_iff_ne, Bool.not_eq_true',
    ← Bool.not_eq_true, yieldsTo_iff, objectAt_column, within]
  constructor
  · rintro ⟨⟨column, seen⟩, before⟩
    rw [objectColour_eq selected.2.1 column] at seen
    refine ⟨selected, column, fun zero => seen ?_, before⟩
    rw [zero]
    rfl
  · rintro ⟨-, column, seen, before⟩
    refine ⟨⟨column, fun zero => seen ?_⟩, before⟩
    rw [objectColour_eq selected.2.1 column] at zero
    rw [← objectPixel_toUInt8, zero]
    rfl

/-- The object of the line that is the first to be painted at a column. -/
def firstPainted (v : Video) (x : Nat) : Option Nat :=
  v.lineOrder.find? (v.paints x (v.backgroundDot x) ∘ v.objectAt)

/-- The first to be painted is the first in priority that shows. -/
theorem wins_of_firstPainted {v : Video} {i x : Nat} (found : v.firstPainted x = some i) :
    v.Wins i x := by
  obtain ⟨painted, before, behind, order, free⟩ := List.find?_eq_some_iff_append.mp found
  have selected : v.Selected i := by
    rw [← mem_lineOrder, order]
    exact List.mem_append_right _ List.mem_cons_self
  refine ⟨(paints_iff selected).mp painted, fun j other ne => ?_⟩
  have pairwise := v.lineOrder_pairwise
  have drawn := mem_lineOrder.mpr other.selected
  rw [order] at pairwise drawn
  rcases List.mem_append.mp drawn with earlier | later
  · -- What is painted earlier would have been found.
    have unpainted := free j earlier
    have painted : (v.paints x (v.backgroundDot x) ∘ v.objectAt) j = true :=
      (paints_iff other.selected).mpr other
    rw [painted] at unpainted
    exact absurd unpainted (by decide)
  · rcases List.mem_cons.mp later with same | later
    · exact absurd same ne
    · exact (List.pairwise_cons.mp (List.pairwise_append.mp pairwise).2.1).1 j later

theorem not_shows_of_firstPainted {v : Video} {x : Nat} (none : v.firstPainted x = none) (i : Nat) :
    ¬ v.Shows i x := by
  intro shows
  have drawn := mem_lineOrder.mpr shows.selected
  exact List.find?_eq_none.mp none i drawn ((paints_iff shows.selected).mpr shows)

/-- Where objects show, one is the first. -/
theorem Shows.exists_wins {v : Video} {i x : Nat} (h : v.Shows i x) : ∃ j, v.Wins j x := by
  cases found : v.firstPainted x with
  | none => exact absurd h (not_shows_of_firstPainted found i)
  | some j => exact ⟨j, wins_of_firstPainted found⟩

/-- What a column of the line shows: the first object that is painted there, or what is behind. -/
theorem lineColours_find {v : Video} {x : Nat} (column : x < 160) :
    v.lineColours[x]? = some (if v.objectsOn = true then
      (v.lineObjects.find? (v.paints x (v.backgroundDot x))).elim (v.backdropColour x) fun o =>
        v.objectHostColour o (v.objectColour o ((x : Int) - o.x).toNat)
      else v.backdropColour x) := by
  have behind : v.backgroundLine[x]? = some (v.backgroundDot x) := by
    unfold backgroundLine
    rw [Array.getElem?_ofFn, dif_pos column]
  have free : (v.backgroundDot x).taken = false := by rw [backgroundDot_eq]
  have colour : (v.backgroundDot x).colour = v.backdropColour x := by rw [backgroundDot_eq]
  unfold lineColours lineDots
  rw [Array.getElem?_map]
  split
  · rw [paintObjects_getElem?, behind, Option.map_some, Option.map_some, paintAt_find free]
    cases v.lineObjects.find? (v.paints x (v.backgroundDot x)) with
    | none => exact congrArg some colour
    | some o => rfl
  · rw [behind, Option.map_some, colour]

/-- **A line shows the first object in priority, and else the backdrop.** -/
theorem lineColours_getElem? {v : Video} {x : Nat} (column : x < 160) :
    (v.ObjectsEnabled ∧ ∃ i, v.Wins i x ∧ v.lineColours[x]? =
        some (v.objectHostColour (v.objectAt i) (v.objectPixel i x).toUInt8)) ∨
      ((v.ObjectsEnabled → ∀ i, ¬ v.Shows i x) ∧
        v.lineColours[x]? = some (v.backdropColour x)) := by
  have shown := lineColours_find (v := v) column
  by_cases on : v.ObjectsEnabled
  swap
  · rw [if_neg (mt (objectsOn_iff v).mp on)] at shown
    exact .inr ⟨fun yes => absurd yes on, shown⟩
  rw [if_pos ((objectsOn_iff v).mpr on), lineObjects_eq, List.find?_map] at shown
  change _ = some (((v.firstPainted x).map v.objectAt).elim _ _) at shown
  cases found : v.firstPainted x with
  | none =>
    rw [found] at shown
    exact .inr ⟨fun _ => not_shows_of_firstPainted found, shown⟩
  | some i =>
    have wins := wins_of_firstPainted found
    rw [found, Option.map_some, Option.elim_some, objectAt_column,
      objectColour_eq wins.shows.selected.2.1 wins.shows.column] at shown
    exact .inl ⟨on, i, wins, shown⟩

end Video

end DotMatrix
