import DotMatrix.Proofs.Video.Window
import DotMatrix.Video.Object

/-!
# The objects of a line

Which of the forty objects are drawn on a line, and which of them comes before which, told by their
numbers in object memory: the first ten that cover the line, from left to right on monochrome
models, and in the order of memory on colour models and where two stand at the same column.

Results:
* `mem_lineOrder`: the objects that are drawn.
* `lineOrder_pairwise`: they are drawn in order of priority.
-/

namespace DotMatrix

/-- A sort by a key is stable: what has the same key stays in the order it was in. -/
theorem mergeSort_pairwise {α : Type} (key : α → Int) {r : α → α → Prop} {l : List α}
    (order : l.Pairwise r) :
    (l.mergeSort fun a b => key a ≤ key b).Pairwise fun a b =>
      key a < key b ∨ key a = key b ∧ r a b := by
  have trans (a b c : α) : decide (key a ≤ key b) = true → decide (key b ≤ key c) = true →
      decide (key a ≤ key c) = true := by
    simp only [decide_eq_true_eq]
    exact Int.le_trans
  have total (a b : α) : (decide (key a ≤ key b) || decide (key b ≤ key a)) = true := by
    simp only [Bool.or_eq_true, decide_eq_true_eq]
    exact Int.le_total ..
  induction l with
  | nil => simp
  | cons a l ih =>
    -- The first of the list goes behind what is smaller, and before all the rest.
    obtain ⟨smaller, rest, whole, others, less⟩ := List.mergeSort_cons trans total a l
    have sorted := List.pairwise_mergeSort trans total (a :: l)
    have later (b : α) (hb : b ∈ rest) : r a b := by
      have member : b ∈ l.mergeSort fun a b => key a ≤ key b := by
        rw [others]
        exact List.mem_append_right _ hb
      exact (List.pairwise_cons.mp order).1 b (List.mem_mergeSort.mp member)
    have tail := ih (List.pairwise_cons.mp order).2
    rw [others] at tail
    rw [whole] at sorted ⊢
    simp only [List.pairwise_append, List.pairwise_cons, List.mem_cons, decide_eq_true_eq] at *
    obtain ⟨smallers, rests, across⟩ := tail
    refine ⟨smallers, ⟨?_, rests⟩, ?_⟩
    · intro b hb
      have le := sorted.2.1.1 b hb
      rcases Int.lt_or_eq_of_le le with lt | eq
      · exact .inl lt
      · exact .inr ⟨eq, later b hb⟩
    · rintro b hb c (rfl | hc)
      · have above := less b hb
        simp only [Bool.not_eq_true', decide_eq_false_iff_not, Int.not_le] at above
        exact .inl above
      · exact across b hb c hc

/-- The first few numbers with a property: those with the property and few such before them. -/
theorem mem_take_filter {p : Nat → Bool} {few n i : Nat} :
    i ∈ ((List.range n).filter p).take few ↔
      i < n ∧ p i = true ∧ (List.range i).countP p < few := by
  induction n with
  | zero => simp
  | succ n ih =>
    rw [List.range_succ, List.filter_append, List.take_append, List.mem_append, ih,
      ← List.countP_eq_length_filter]
    constructor
    · rintro (⟨lt, holds, room⟩ | last)
      · exact ⟨by omega, holds, room⟩
      · have found := List.mem_filter.mp (List.mem_of_mem_take last)
        have same : i = n := List.mem_singleton.mp found.1
        subst same
        refine ⟨Nat.lt_succ_self i, found.2, ?_⟩
        by_contra full
        rw [Nat.sub_eq_zero_of_le (Nat.le_of_not_lt full)] at last
        exact absurd last (by simp)
    · rintro ⟨lt, holds, room⟩
      rcases Nat.lt_succ_iff_lt_or_eq.mp lt with lt | rfl
      · exact .inl ⟨lt, holds, room⟩
      · obtain ⟨spare, slots⟩ : ∃ spare, few - (List.range i).countP p = spare + 1 :=
          ⟨few - (List.range i).countP p - 1, by omega⟩
        rw [slots]
        simp [holds]

namespace Video

/-- Object `i` covers the present line: objects stand sixteen lines above their Y. -/
def Covers (v : Video) (i : Nat) : Prop :=
  (v.oamAt (4 * i)).toNat ≤ v.ly.toNat + 16 ∧
    v.ly.toNat + 16 < (v.oamAt (4 * i)).toNat + v.objectHeight

instance (v : Video) : DecidablePred v.Covers := fun i =>
  inferInstanceAs (Decidable ((v.oamAt (4 * i)).toNat ≤ v.ly.toNat + 16 ∧
    v.ly.toNat + 16 < (v.oamAt (4 * i)).toNat + v.objectHeight))

/-- Object `i` is one of the first ten in memory that cover the present line. -/
def Selected (v : Video) (i : Nat) : Prop :=
  i < objectCount ∧ v.Covers i ∧ (List.range i).countP (fun j => v.Covers j) < objectsPerLine

/-- The X of object `i`, eight columns to the right of the object. -/
def objectX (v : Video) (i : Nat) : Nat :=
  (v.oamAt (4 * i + 1)).toNat

/-- Object `i` comes before object `j`: it stands first in memory, or on monochrome models first on
the line. -/
def Before (v : Video) (i j : Nat) : Prop :=
  if v.model = .gbc then i < j
  else v.objectX i < v.objectX j ∨ v.objectX i = v.objectX j ∧ i < j

/-- The numbers of the objects of the present line, first in memory first. -/
def scanOrder (v : Video) : List Nat :=
  ((List.range objectCount).filter fun i => v.Covers i).take objectsPerLine

/-- The numbers of the objects of the present line, first in priority first. -/
def lineOrder (v : Video) : List Nat :=
  if v.model = .gbc then v.scanOrder
  else v.scanOrder.mergeSort fun i j => (v.objectAt i).x ≤ (v.objectAt j).x

theorem coversLine_iff (v : Video) (i : Nat) :
    v.coversLine (v.objectAt i) = true ↔ v.Covers i := by
  have place : (v.objectAt i).y = (v.oamAt (4 * i)).toNat - 16 := rfl
  unfold coversLine Covers
  rw [Bool.and_eq_true, decide_eq_true_iff, decide_eq_true_iff, place]
  omega

theorem scanObjects_eq (v : Video) : v.scanObjects = v.scanOrder.map v.objectAt := by
  unfold scanObjects scanOrder
  rw [List.filter_map, ← List.map_take]
  congr 3
  funext i
  rw [Bool.eq_iff_iff, decide_eq_true_iff]
  exact coversLine_iff v i

/-- The objects that are drawn, and their order, are told by their numbers. -/
theorem lineObjects_eq (v : Video) : v.lineObjects = v.lineOrder.map v.objectAt := by
  unfold lineObjects lineOrder
  simp only [isColour_iff, scanObjects_eq]
  split
  · rfl
  · refine (List.map_mergeSort ?_).symm
    intro i _ j _
    rfl

theorem mem_scanOrder {v : Video} {i : Nat} : i ∈ v.scanOrder ↔ v.Selected i := by
  unfold scanOrder Selected
  rw [mem_take_filter, decide_eq_true_iff]

/-- The objects that are drawn. -/
theorem mem_lineOrder {v : Video} {i : Nat} : i ∈ v.lineOrder ↔ v.Selected i := by
  unfold lineOrder
  split
  · exact mem_scanOrder
  · rw [List.mem_mergeSort]
    exact mem_scanOrder

theorem scanOrder_pairwise (v : Video) : v.scanOrder.Pairwise (· < ·) :=
  (List.pairwise_lt_range.filter _).take

/-- The objects are drawn in order of priority. -/
theorem lineOrder_pairwise (v : Video) : v.lineOrder.Pairwise v.Before := by
  have scanned := v.scanOrder_pairwise
  unfold lineOrder
  by_cases colour : v.model = .gbc
  · rw [if_pos colour]
    refine scanned.imp fun lt => ?_
    rw [Before, if_pos colour]
    exact lt
  · rw [if_neg colour]
    refine (mergeSort_pairwise (fun i => (v.objectAt i).x) scanned).imp fun order => ?_
    rw [Before, if_neg colour]
    unfold objectX
    simp only [objectAt] at order
    omega

/-- Two objects do not come before one another. -/
theorem Before.asymm {v : Video} {i j : Nat} (h : v.Before i j) : ¬ v.Before j i := by
  unfold Before at h ⊢
  by_cases colour : v.model = .gbc
  · rw [if_pos colour] at h ⊢
    omega
  · rw [if_neg colour] at h ⊢
    omega

end Video

end DotMatrix
