import DotMatrix.Proofs.Video.Course
import Mathlib.Data.Nat.Count
import Mathlib.Data.Set.Card

/-!
# The calendar of a frame

A frame has 154 lines of 456 dots, and a dot takes a cycle. A `Place` is a line and a dot; what there
is to see at a place (the line as it reads, the mode, the cycles that are left in the present
stretch, the event) is said here without the picture unit. `placeAt` is the place at a time that is
counted from the top of a frame.

Results:
* `Place.within`: up to the end of a stretch nothing changes but the cycles that are left.
* `Place.next_scan` to `Place.next_top`: what there is to see where a stretch begins.
* `placeAt_within`, `placeAt_next`: time goes along a stretch, and from a stretch to the next.
* `events_stretch`: the events of a time, stretch by stretch.
* `count_hblank`, `count_vblank`: how many events there have been.
-/

namespace DotMatrix

namespace Video

/-- A line of a frame, and a dot of the line. -/
structure Place where
  line : Nat
  dot : Nat

namespace Place

/-- The line as it reads: the last one reads as line 0 from dot 4 on. -/
def ly (p : Place) : Nat :=
  if p.line = 153 ∧ 4 ≤ p.dot then 0 else p.line

/-- The mode. -/
def mode (p : Place) : UInt8 :=
  if 144 ≤ p.line then vblankMode
  else if p.dot < 80 then scanMode
  else if p.dot < 252 then drawMode
  else hblankMode

/-- Whether a stretch begins here: a line, a mode within a visible line, or line 0 as the last line
reads. -/
def IsBoundary (p : Place) : Prop :=
  p.dot = 0 ∨ p.line < 144 ∧ (p.dot = 80 ∨ p.dot = 252) ∨ p.line = 153 ∧ p.dot = 4

/-- The dot at which the present stretch ends. -/
def ends (p : Place) : Nat :=
  if 144 ≤ p.line then if p.line = 153 ∧ p.dot < 4 then 4 else 456
  else if p.dot < 80 then 80
  else if p.dot < 252 then 252
  else 456

/-- The cycles that are left in the present stretch. -/
def rest (p : Place) : Nat :=
  p.ends - p.dot

/-- The place at which the next stretch begins. -/
def next (p : Place) : Place :=
  if p.ends = 456 then ⟨(p.line + 1) % 154, 0⟩ else ⟨p.line, p.ends⟩

/-- The event of a place, with the line as it reads there. -/
def event (p : Place) : Option (Event × UInt8) :=
  if p.line < 144 ∧ p.dot = 252 then some (.hblank, UInt8.ofNat p.line)
  else if p.line = 144 ∧ p.dot = 0 then some (.vblank, 144)
  else none

/-- The place is one of a frame. -/
structure InFrame (p : Place) : Prop where
  line : p.line < 154
  dot : p.dot < 456

variable {p : Place}

/-- What there is to see at a place. -/
structure Shows (p : Place) (ly : Nat) (mode : UInt8) (rest : Nat)
    (event : Option (Event × UInt8)) : Prop where
  ly : p.ly = ly
  mode : p.mode = mode
  rest : p.rest = rest
  event : p.event = event

/-! ## The stretches of a frame -/

theorem mode_scan (h : p.mode = scanMode) : p.line < 144 ∧ p.dot < 80 := by
  grind [mode, scanMode, vblankMode, drawMode, hblankMode]

theorem mode_draw (h : p.mode ≠ hblankMode ∧ p.mode ≠ vblankMode ∧ p.mode ≠ scanMode) :
    p.line < 144 ∧ 80 ≤ p.dot ∧ p.dot < 252 := by
  grind [mode]

theorem mode_hblank (h : p.mode = hblankMode) : p.line < 144 ∧ 252 ≤ p.dot := by
  grind [mode, scanMode, vblankMode, drawMode, hblankMode]

theorem mode_vblank (h : p.mode = vblankMode) : 144 ≤ p.line := by
  grind [mode, scanMode, vblankMode, drawMode, hblankMode]

/-- A place of a visible line reads as its line. -/
theorem ly_visible (line : p.line < 144) : p.ly = p.line :=
  if_neg (by omega)

theorem ly_cases (p : Place) : p.ly = p.line ∨ p.ly = 0 := by
  grind [ly]

/-- The last line stands as itself before dot 4 alone. -/
theorem ly_stands (h : p.ly ≠ 0) (line : p.line = 153) : p.dot < 4 := by
  grind [ly]

/-- Below the visible lines, line 0 is the last line once it has wrapped. -/
theorem ly_wrapped (below : 144 ≤ p.line) (h : p.ly = 0) : p.line = 153 ∧ 4 ≤ p.dot := by
  grind [ly]

theorem next_scan (line : p.line < 144) (dot : p.dot < 80) :
    p.next.Shows p.line drawMode 172 none := by
  constructor <;> grind [next, ends, ly, mode, rest, event]

theorem next_draw (line : p.line < 144) (dot : 80 ≤ p.dot ∧ p.dot < 252) :
    p.next.Shows p.line hblankMode 204 (some (.hblank, UInt8.ofNat p.line)) := by
  constructor <;> grind [next, ends, ly, mode, rest, event]

theorem next_hblank (line : p.line + 1 < 144) (dot : 252 ≤ p.dot) :
    p.next.Shows (p.line + 1) scanMode 80 none := by
  constructor <;> grind [next, ends, ly, mode, rest, event]

theorem next_frame (line : p.line + 1 = 144) (dot : 252 ≤ p.dot) :
    p.next.Shows 144 vblankMode 456 (some (.vblank, 144)) := by
  constructor <;> grind [next, ends, ly, mode, rest, event]

theorem next_blank (line : 144 ≤ p.line ∧ p.line + 1 < 153) :
    p.next.Shows (p.line + 1) vblankMode 456 none := by
  constructor <;> grind [next, ends, ly, mode, rest, event]

theorem next_last (line : p.line + 1 = 153) : p.next.Shows 153 vblankMode 4 none := by
  constructor <;> grind [next, ends, ly, mode, rest, event]

theorem next_wrap (line : p.line = 153) (dot : p.dot < 4) : p.next.Shows 0 vblankMode 452 none := by
  constructor <;> grind [next, ends, ly, mode, rest, event]

theorem next_top (line : p.line = 153) (dot : 4 ≤ p.dot) : p.next.Shows 0 scanMode 80 none := by
  constructor <;> grind [next, ends, ly, mode, rest, event]

theorem next_isBoundary (p : Place) : p.next.IsBoundary := by
  grind [next, ends, IsBoundary]

theorem InFrame.rest_pos (h : p.InFrame) : 0 < p.rest := by
  have dot := h.dot
  grind [rest, ends]

/-- Up to the end of a stretch nothing changes but the cycles that are left. -/
theorem within {k : Nat} (h : k < p.rest) :
    ly ⟨p.line, p.dot + k⟩ = p.ly ∧ mode ⟨p.line, p.dot + k⟩ = p.mode ∧
      rest ⟨p.line, p.dot + k⟩ = p.rest - k := by
  grind [rest, ends, ly, mode]

/-- Until the present stretch has ended no other begins, and nothing happens. -/
theorem quiet_within {k : Nat} (later : 0 < k) (h : k < p.rest) :
    ¬ IsBoundary ⟨p.line, p.dot + k⟩ ∧ event ⟨p.line, p.dot + k⟩ = none := by
  grind [rest, ends, IsBoundary, event]

end Place

/-! ## Places in time -/

/-- The place at a time, counted from the top of a frame. -/
def placeAt (t : Nat) : Place :=
  ⟨t % 70224 / 456, t % 70224 % 456⟩

theorem placeAt_inFrame (t : Nat) : (placeAt t).InFrame := by
  constructor
  · simp only [placeAt]
    omega
  · simp only [placeAt]
    omega

/-- Time goes along a line. -/
theorem placeAt_add {t k : Nat} (h : (placeAt t).dot + k < 456) :
    placeAt (t + k) = ⟨(placeAt t).line, (placeAt t).dot + k⟩ := by
  simp only [placeAt, Place.mk.injEq] at h ⊢
  omega

/-- Time goes from a line to the next. -/
theorem placeAt_line {t k : Nat} (h : (placeAt t).dot + k = 456) :
    placeAt (t + k) = ⟨((placeAt t).line + 1) % 154, 0⟩ := by
  simp only [placeAt, Place.mk.injEq] at h ⊢
  omega

theorem placeAt_within {t k : Nat} (h : k < (placeAt t).rest) :
    placeAt (t + k) = ⟨(placeAt t).line, (placeAt t).dot + k⟩ := by
  refine placeAt_add ?_
  have ends : (placeAt t).ends ≤ 456 := by
    grind [Place.ends]
  unfold Place.rest at h
  omega

theorem placeAt_next (t : Nat) : placeAt (t + (placeAt t).rest) = (placeAt t).next := by
  have dot := (placeAt_inFrame t).dot
  have ends : (placeAt t).dot < (placeAt t).ends ∧ (placeAt t).ends ≤ 456 := by
    grind [Place.ends]
  unfold Place.next Place.rest
  split
  next line =>
    rw [line]
    exact placeAt_line (by omega)
  next inner =>
    rw [placeAt_add (by omega)]
    congr
    omega

/-! ## Events in time -/

/-- The events of `n` cycles from time `t` on, in their order. -/
def events (t n : Nat) : List (Event × UInt8) :=
  (List.range' t n).filterMap fun u => (placeAt u).event

theorem events_add (t m n : Nat) : events t (m + n) = events t m ++ events (t + m) n := by
  unfold events
  rw [← List.range'_append_1, List.filterMap_append]

theorem events_quiet {t n : Nat} (h : n < (placeAt t).rest) : events (t + 1) n = [] := by
  unfold events
  rw [List.filterMap_eq_nil_iff]
  intro u mem
  obtain ⟨first, last⟩ := List.mem_range'_1.mp mem
  obtain ⟨k, rfl⟩ := Nat.exists_eq_add_of_lt first
  rw [Nat.add_assoc, placeAt_within (by omega)]
  exact (Place.quiet_within (Nat.succ_pos k) (by omega)).2

/-- Up to the end of a stretch the only event is that of the next one's place. -/
theorem events_stretch {t n : Nat} (h : (placeAt t).rest ≤ n) :
    events (t + 1) n =
      (placeAt t).next.event.toList ++ events (t + (placeAt t).rest + 1) (n - (placeAt t).rest) := by
  have pos := (placeAt_inFrame t).rest_pos
  obtain ⟨k, stretch⟩ := Nat.exists_eq_add_of_lt pos
  rw [Nat.zero_add] at stretch
  have quiet : events (t + 1) k = [] := events_quiet (by omega)
  have last : events (t + (placeAt t).rest) 1 = (placeAt t).next.event.toList := by
    rw [← placeAt_next]
    cases at_next : (placeAt (t + (placeAt t).rest)).event <;> simp [events, at_next]
  have parts : n = k + (1 + (n - (placeAt t).rest)) := by omega
  have here : t + 1 + k = t + (placeAt t).rest := by omega
  rw [parts, events_add, quiet, List.nil_append, events_add, here, last, ← parts]

/-- A byte tells the lines of a frame apart. -/
theorem ofNat_line_inj {m n : Nat} (hm : m < 256) (hn : n < 256) :
    UInt8.ofNat m = UInt8.ofNat n ↔ m = n := by
  rw [← UInt8.toNat_inj, UInt8.toNat_ofNat', UInt8.toNat_ofNat', Nat.mod_eq_of_lt hm,
    Nat.mod_eq_of_lt hn]

theorem Place.event_hblank {p : Place} {line : Nat} (visible : line < 144) :
    p.event = some (.hblank, UInt8.ofNat line) ↔ p.line = line ∧ p.dot = 252 := by
  unfold event
  by_cases drawn : p.line < 144 ∧ p.dot = 252
  · rw [if_pos drawn, Option.some_inj, Prod.mk_inj, ofNat_line_inj (by omega) (by omega)]
    exact ⟨fun h => ⟨h.2, drawn.2⟩, fun h => ⟨rfl, h.1⟩⟩
  · rw [if_neg drawn]
    refine ⟨fun h => ?_, fun h => absurd ⟨h.1 ▸ visible, h.2⟩ drawn⟩
    split at h <;> cases h

theorem Place.event_vblank {p : Place} :
    p.event.map Prod.fst = some .vblank ↔ p.line = 144 ∧ p.dot = 0 := by
  unfold event
  by_cases drawn : p.line < 144 ∧ p.dot = 252
  · rw [if_pos drawn]
    exact ⟨fun h => (by cases h), fun h => absurd drawn.1 (by omega)⟩
  · rw [if_neg drawn]
    by_cases first : p.line = 144 ∧ p.dot = 0
    · rw [if_pos first]
      exact ⟨fun _ => first, fun _ => rfl⟩
    · rw [if_neg first]
      exact ⟨fun h => (by cases h), fun h => absurd h first⟩

/-- The only events of visible lines are those at the end of the drawing. -/
theorem Place.event_visible {p : Place} {line : UInt8} (h : p.event = some (.hblank, line)) :
    line < 144 := by
  unfold event at h
  split at h
  next drawn =>
    cases h
    rw [UInt8.lt_iff_toNat_lt, UInt8.toNat_ofNat', Nat.mod_eq_of_lt (by omega)]
    exact drawn.1
  next elsewhere => split at h <;> cases h

/-- How often a time of the frame has come. -/
theorem countP_recurring {c : Nat} (h : c < 70224) (t : Nat) :
    (List.range (t + 1)).countP (fun u => u % 70224 = c) =
      Set.ncard {k : Nat | 70224 * k + c ≤ t} := by
  have times : (fun k => 70224 * k + c) '' {k : Nat | 70224 * k + c ≤ t} =
      {u ∈ Finset.range (t + 1) | u % 70224 = c} := by
    ext u
    rw [Finset.mem_coe, Finset.mem_filter, Finset.mem_range]
    constructor
    · rintro ⟨k, before, rfl⟩
      have time : (70224 * k + c) % 70224 = c := by omega
      exact ⟨Nat.lt_succ_of_le before, time⟩
    · rintro ⟨before, time⟩
      have whole : 70224 * (u / 70224) + c = u := by omega
      exact ⟨u / 70224, whole.trans_le (Nat.le_of_lt_succ before), whole⟩
  have injective : Function.Injective fun k : Nat => 70224 * k + c := by
    intro k l same
    simp only at same
    omega
  rw [← Set.ncard_image_of_injective _ injective, times, Set.ncard_coe_finset,
    ← Nat.count_eq_card_filter_range, Nat.count]

/-- Every visible line has one event for each of its dots 252 that have come. -/
theorem count_hblank {line : Nat} (visible : line < 144) (t : Nat) :
    (events 0 (t + 1)).count (.hblank, UInt8.ofNat line) =
      Set.ncard {k : Nat | 70224 * k + (456 * line + 252) ≤ t} := by
  rw [← countP_recurring (by omega), events, List.count_filterMap, List.range_eq_range']
  refine List.countP_congr fun u _ => ?_
  rw [beq_iff_eq, Place.event_hblank visible, decide_eq_true_iff]
  simp only [placeAt]
  omega

/-- Every frame has one event for the end of its visible lines. -/
theorem count_vblank (t : Nat) :
    ((events 0 (t + 1)).map Prod.fst).count .vblank =
      Set.ncard {k : Nat | 70224 * k + 65664 ≤ t} := by
  rw [← countP_recurring (by omega), events, List.map_filterMap, List.count_filterMap,
    List.range_eq_range']
  refine List.countP_congr fun u _ => ?_
  rw [beq_iff_eq, Place.event_vblank, decide_eq_true_iff]
  simp only [placeAt]
  omega

end Video
end DotMatrix
