import DotMatrix.Proofs.Snapshot.Item
import DotMatrix.Snapshot.Record

/-!
# What comes back through codecs

`c.Returns depth a b` says that the codec shows `a` as an item that has a form in bytes, and takes
that item back as `b`. For most values `b` is `a`; a device comes back without what belongs to the
host. Here the law is proved for numbers, switches, memories, records and choices.

Results:
* `record_returns`: a record returns when its fields do.
* `Returns.field`, `Returns.lastField`: the fields of a record, one by one.
-/

namespace DotMatrix

/-- The value is shown as an item with a form in bytes, nested at most `depth` deep, and taken back
as `b`. -/
structure Codec.Returns {α : Type} (c : Codec α) (depth : Nat) (a b : α) : Prop where
  storable : Item.Storable depth (c.write a)
  back : c.read (c.write a) = some b

/-- The fields are shown as items with a form in bytes, one for each name, and taken back as `b`. -/
structure Fields.Returns {α : Type} (f : Fields α) (depth : Nat) (a b : α) : Prop where
  storable : ∀ i ∈ f.write a, Item.Storable depth i
  count : (f.write a).length = f.names.length
  back : f.read ((f.write a).map some) = some b

namespace Codec

variable {α β : Type} {depth : Nat}

theorem Returns.view {c : Codec β} {parts : α → β} {build : β → α} {a a' : α} {b : β}
    (h : c.Returns depth (parts a) b) (built : build b = a') :
    (c.view parts build).Returns depth a a' where
  storable := h.storable
  back := by
    simp only [Codec.view, h.back, Option.map_some, built]

/-! ## Numbers -/

theorem toInt?_ofInt (n : Int) : (Item.ofInt n).toInt? = some n := by
  unfold Item.ofInt
  split
  case isTrue sign => exact congrArg some (Int.toNat_of_nonneg sign)
  case isFalse => rfl

theorem storable_ofInt {n : Int} (low : -0x8000000000000000 ≤ n)
    (high : n < 0x10000000000000000) : Item.Storable depth (Item.ofInt n) := by
  unfold Item.ofInt
  split
  · rw [Item.Storable]
    omega
  · rw [Item.Storable]
    omega

theorem range_returns {low high n : Int} (h : low ≤ n ∧ n ≤ high)
    (wide : -0x8000000000000000 ≤ low ∧ high < 0x10000000000000000) :
    (range low high).Returns depth n n where
  storable := storable_ofInt (by omega) (by omega)
  back := by
    simp only [range, toInt?_ofInt, Option.bind_eq_bind, Option.bind_some, if_pos h]

theorem upTo_returns {high n : Nat} (h : n ≤ high) (wide : high < 0x10000000000000000) :
    (upTo high).Returns depth n n :=
  Returns.view (range_returns ⟨by omega, by omega⟩ ⟨by omega, by omega⟩) (Int.toNat_natCast n)

theorem byte_returns {b : UInt8} : byte.Returns depth b b :=
  Returns.view (upTo_returns (Nat.le_of_lt_succ b.toNat_lt) (by decide)) UInt8.ofNat_toNat

theorem byte_back (b : UInt8) : byte.read (byte.write b) = some b :=
  Returns.back (@byte_returns 0 b)

theorem word_returns {w : UInt16} : word.Returns depth w w :=
  Returns.view (upTo_returns (Nat.le_of_lt_succ w.toNat_lt) (by decide)) UInt16.ofNat_toNat

theorem cycles_returns {n : Nat} (h : n ≤ 0xFFFFFFFF) : cycles.Returns depth n n :=
  upTo_returns h (by decide)

theorem countdown_returns {n : Int} (h : -0x80000000 ≤ n ∧ n ≤ 0x7FFFFFFF) :
    countdown.Returns depth n n :=
  range_returns h (by decide)

theorem size_returns {n : Nat} (h : n ≤ 0xFFFFFFFFFFFFFFFF) : size.Returns depth n n :=
  upTo_returns h (by decide)

/-! ## Switches and missing values -/

theorem flag_returns {b : Bool} : flag.Returns depth b b where
  storable := by
    rw [flag, Item.Storable]
    trivial
  back := rfl

theorem optional_none (c : Codec α) : c.optional.Returns depth none none where
  storable := by
    rw [optional, Item.Storable]
    trivial
  back := rfl

theorem optional_some {c : Codec α} {a b : α} (h : c.Returns depth a b)
    (present : c.write a ≠ .nil) : c.optional.Returns depth (some a) (some b) where
  storable := h.storable
  back := by
    simp only [optional]
    rw [h.back, Option.map_some]

/-! ## Memories -/

theorem readBytes_write (done : Array UInt8) (bytes : List UInt8) :
    readBytes done (bytes.map byte.write) = some (done.appendList bytes) := by
  induction bytes generalizing done with
  | nil => simp [readBytes]
  | cons b bytes ih =>
    rw [List.map_cons, readBytes, byte_back]
    simp [ih]

theorem memory_returns {a : Array UInt8} (h : a.size < 0x100000000) :
    memory.Returns (depth + 1) a a where
  storable := by
    refine ⟨by rw [List.length_map]; exact h, ?_⟩
    intro i hi
    obtain ⟨b, -, rfl⟩ := List.mem_map.mp hi
    exact byte_returns.storable
  back := by
    simp [memory, readBytes_write]

theorem bytes_returns {n : Nat} {v : Vector UInt8 n} (h : n < 0x100000000) :
    (bytes n).Returns (depth + 1) v v where
  storable := (memory_returns (by rw [v.size_toArray]; exact h)).storable
  back := by
    simp [bytes, memory, row?, readBytes_write, vectorOf?]

/-! ## Records -/

theorem Returns.lastFieldOr {c : Codec α} {a b : α} {name : String} {missing : Option α}
    (h : c.Returns depth a b) : (c.lastFieldOr name missing).Returns depth a b where
  storable := by
    intro i hi
    rw [List.mem_singleton.mp hi]
    exact h.storable
  count := rfl
  back := h.back

theorem Returns.fieldOr {c : Codec α} {others : Fields β} {a a' : α} {b b' : β} {name : String}
    {missing : Option α} (h : c.Returns depth a a') (hs : others.Returns depth b b') :
    (c.fieldOr name missing others).Returns depth (a, b) (a', b') where
  storable := by
    intro i hi
    rcases List.mem_cons.mp hi with rfl | later
    · exact h.storable
    · exact hs.storable i later
  count := congrArg (· + 1) hs.count
  back := by
    simp [Codec.fieldOr, readField, h.back, hs.back]

theorem Returns.lastField {c : Codec α} {a b : α} {name : String} (h : c.Returns depth a b) :
    (c.lastField name).Returns depth a b :=
  h.lastFieldOr

theorem Returns.field {c : Codec α} {others : Fields β} {a a' : α} {b b' : β} {name : String}
    (h : c.Returns depth a a') (hs : others.Returns depth b b') :
    (c.field name others).Returns depth (a, b) (a', b') :=
  h.fieldOr hs

/-- A record returns when its fields do. -/
theorem record_returns {f : Fields α} {a b : α} (few : f.names.length < 0x100000000)
    (h : f.Returns depth a b) : (record f).Returns (depth + 1) a b where
  storable := ⟨by rw [h.count]; exact few, h.storable⟩
  back := by
    simp [record, Fields.items?, Fields.fill, h.count, h.back]

theorem record_present (f : Fields α) (a : α) : (record f).write a ≠ .nil := by
  intro h
  cases h

/-! ## Choices -/

theorem storable_ofName {name : String} (short : name.toList.length < 0x100000000) :
    Item.Storable depth (Item.ofName name) := by
  rw [Item.ofName, Item.Storable, Item.spell, List.length_map]
  exact short

end Codec

end DotMatrix
