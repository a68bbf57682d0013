import DotMatrix.Proofs.Snapshot.Head

/-!
# Items in bytes

`Storable depth i` says that the item has a form in bytes: its numbers fit 64 bits, its counts fit
32 bits, and it nests at most `depth` deep. Such an item comes back from its bytes, and no strict
prefix of its bytes reads as an item at all.

Results:
* **`read_takes`**: behind an item's bytes may stand any others.
* **`read_prefix`**: the bytes of an item, cut short anywhere, are not read.
-/

namespace DotMatrix

namespace Item

/-- The item has a form in bytes, and nests at most `depth` deep. -/
def Storable : Nat → Item → Prop
  | _, nil => True
  | _, flag _ => True
  | _, natural n => n < 0x10000000000000000
  | _, integer n => -0x8000000000000000 ≤ n ∧ n < 0x8000000000000000
  | _, real bytes => bytes.length = 4 ∨ bytes.length = 8
  | _, name text => text.length < 0x100000000
  | _, blob bytes => bytes.length < 0x100000000
  | depth + 1, list items => items.length < 0x100000000 ∧ ∀ i ∈ items, Storable depth i
  | depth + 1, table entries =>
    entries.length < 0x100000000 ∧ ∀ e ∈ entries, Storable depth e.1 ∧ Storable depth e.2
  | _ + 1, extension _ bytes => bytes.length < 0x100000000
  | 0, list _ => False
  | 0, table _ => False
  | 0, extension _ _ => False

/-! ## Several items -/

section Many

variable {α : Type} {read : List UInt8 → Option (α × List UInt8)} {write : α → List UInt8}

theorem readMany_takes {values : List α} (h : ∀ a ∈ values, Takes read (write a) a)
    (done : List α) :
    Takes (readMany read values.length done) (values.flatMap write)
      (done.reverse ++ values) := by
  induction values generalizing done with
  | nil =>
    intro t
    simp [readMany]
  | cons a values ih =>
    intro t
    have first := h a List.mem_cons_self (values.flatMap write ++ t)
    have others := ih (fun b hb => h b (List.mem_cons_of_mem a hb)) (a :: done) t
    rw [List.flatMap_cons, List.append_assoc, List.length_cons, readMany, first]
    simpa using others

theorem readMany_local (h : Local read) (n : Nat) (done : List α) :
    Local (readMany read n done) := by
  induction n generalizing done with
  | zero => exact Local.pure done.reverse
  | succ n ih =>
    intro s values rest t hr
    rw [readMany] at hr ⊢
    cases hs : read s with
    | none => rw [hs] at hr; cases hr
    | some p =>
      obtain ⟨a, behind⟩ := p
      rw [hs] at hr
      rw [h s a behind t hs]
      exact ih (a :: done) behind values rest t hr

theorem readPair_takes {a b : α} (h1 : Takes read (write a) a) (h2 : Takes read (write b) b) :
    Takes (readPair read) (write a ++ write b) (a, b) := by
  intro t
  rw [List.append_assoc]
  simp only [readPair, h1 (write b ++ t), h2 t, Option.bind_eq_bind, Option.bind_some,
    Option.pure_def]

theorem readPair_local (h : Local read) : Local (readPair read) :=
  h.bind fun a => h.map fun b => (a, b)

end Many

theorem writeAll_eq (done : List UInt8) (items : List Item) :
    writeAll done items = done.reverse ++ items.flatMap write := by
  induction items generalizing done with
  | nil => simp [writeAll]
  | cons i items ih => simp [writeAll, ih]

theorem writeEntries_eq (done : List UInt8) (entries : List (Item × Item)) :
    writeEntries done entries =
      done.reverse ++ entries.flatMap fun e => write e.1 ++ write e.2 := by
  induction entries generalizing done with
  | nil => simp [writeEntries]
  | cons e entries ih => simp [writeEntries, ih]

theorem readExtension_takes (kind : UInt8) (bytes : List UInt8) :
    Takes (readExtension bytes.length) (kind :: bytes) (extension kind bytes) :=
  (takeExactly_takes bytes).map (extension kind)

theorem readExtension_local (n : Nat) : Local (readExtension n) := by
  intro s i rest t h
  cases s with
  | nil => cases h
  | cons kind s => exact (takeExactly_local n).map (extension kind) s i rest t h

/-! ## Items -/

/-- A whole item is read at any depth. -/
theorem readAt_whole {depth : Nat} {written : List UInt8} {i : Item}
    (h : Takes Head.read written (.whole i)) : Takes (readAt depth) written i := by
  intro t
  cases depth <;> simp only [readAt, h t]

theorem readAt_list {depth : Nat} {items : List Item} (count : items.length < 0x100000000)
    (h : ∀ i ∈ items, Takes (readAt depth) (write i) i) :
    Takes (readAt (depth + 1)) (write (list items)) (list items) := by
  intro t
  have members := (readMany_takes h []).map list t
  rw [write, writeAll_eq, List.append_assoc, readAt, listHead_takes count]
  exact members

theorem readAt_table {depth : Nat} {entries : List (Item × Item)}
    (count : entries.length < 0x100000000)
    (h : ∀ e ∈ entries,
      Takes (readAt depth) (write e.1) e.1 ∧ Takes (readAt depth) (write e.2) e.2) :
    Takes (readAt (depth + 1)) (write (table entries)) (table entries) := by
  intro t
  have pairs : ∀ e ∈ entries, Takes (readPair (readAt depth)) (write e.1 ++ write e.2) e :=
    fun e he => readPair_takes (h e he).1 (h e he).2
  have members := (readMany_takes pairs []).map table t
  rw [write, writeEntries_eq, List.append_assoc, readAt, tableHead_takes count]
  exact members

theorem readAt_extension {depth : Nat} {kind : UInt8} {bytes : List UInt8}
    (count : bytes.length < 0x100000000) :
    Takes (readAt (depth + 1)) (write (extension kind bytes)) (extension kind bytes) := by
  intro t
  rw [write, List.append_assoc, readAt, extensionHead_takes count]
  exact readExtension_takes kind bytes t

/-- An item comes back from its bytes. -/
theorem readAt_takes {depth : Nat} {i : Item} (h : Storable depth i) :
    Takes (readAt depth) (write i) i := by
  induction depth generalizing i with
  | zero =>
    cases i with
    | nil => exact readAt_whole fun _ => rfl
    | flag b => exact readAt_whole fun _ => by cases b <;> rfl
    | natural n => exact readAt_whole (writeNatural_takes h)
    | integer n => exact readAt_whole (writeInteger_takes h.1 h.2)
    | real bytes => exact readAt_whole (real_takes h)
    | name text => exact readAt_whole (name_takes h)
    | blob bytes => exact readAt_whole (blob_takes h)
    | list items => exact h.elim
    | table entries => exact h.elim
    | extension kind bytes => exact h.elim
  | succ depth ih =>
    cases i with
    | nil => exact readAt_whole fun _ => rfl
    | flag b => exact readAt_whole fun _ => by cases b <;> rfl
    | natural n => exact readAt_whole (writeNatural_takes h)
    | integer n => exact readAt_whole (writeInteger_takes h.1 h.2)
    | real bytes => exact readAt_whole (real_takes h)
    | name text => exact readAt_whole (name_takes h)
    | blob bytes => exact readAt_whole (blob_takes h)
    | list items => exact readAt_list h.1 fun i hi => ih (h.2 i hi)
    | table entries => exact readAt_table h.1 fun e he => ⟨ih (h.2 e he).1, ih (h.2 e he).2⟩
    | extension kind bytes => exact readAt_extension h

/-- The reader of items does not look behind an item. -/
theorem readAt_local (depth : Nat) : Local (readAt depth) := by
  induction depth with
  | zero =>
    intro s i rest t h
    simp only [readAt] at h ⊢
    split at h
    case h_1 j behind hs =>
      cases h
      simp only [Head.read_local s _ rest t hs]
    case h_2 => cases h
  | succ depth ih =>
    intro s i rest t h
    simp only [readAt] at h ⊢
    split at h
    case h_1 j behind hs =>
      cases h
      simp only [Head.read_local s _ rest t hs]
    case h_2 n behind hs =>
      simp only [Head.read_local s _ behind t hs]
      exact (readMany_local ih n []).map list behind i rest t h
    case h_3 n behind hs =>
      simp only [Head.read_local s _ behind t hs]
      exact (readMany_local (readPair_local ih) n []).map table behind i rest t h
    case h_4 n behind hs =>
      simp only [Head.read_local s _ behind t hs]
      exact readExtension_local n behind i rest t h
    case h_5 => cases h

/-- An item comes back from its bytes, whatever stands behind them. -/
theorem read_takes {i : Item} (h : Storable maxDepth i) : Takes read (write i) i :=
  readAt_takes h

/-- The bytes of an item, cut short anywhere, are not read. -/
theorem read_prefix {i : Item} (h : Storable maxDepth i) {p : List UInt8} (cut : p <+: write i)
    (short : p ≠ write i) : read p = none := by
  obtain ⟨t, ht⟩ := cut
  cases hp : read p with
  | none => rfl
  | some taken =>
    obtain ⟨j, rest⟩ := taken
    have whole := readAt_takes h []
    rw [List.append_nil, ← ht, readAt_local maxDepth p j rest t hp] at whole
    have behind : rest ++ t = [] := (Prod.mk.inj (Option.some.inj whole)).2
    rw [(List.append_eq_nil_iff.mp behind).2, List.append_nil] at ht
    exact absurd ht short

end Item

end DotMatrix
