import DotMatrix.Snapshot.Item.Basic

/-!
# Codecs

A codec shows values as items and takes them back. Some items can be taken back that are never
shown: a number in any form, and bytes in the place of a list of small numbers.
-/

namespace DotMatrix

/-- A way to show values of `α` as items, and to take them back. -/
structure Codec (α : Type) where
  write : α → Item
  read : Item → Option α

namespace Codec

variable {α β : Type}

/-- A value that is shown through another. -/
def view (c : Codec β) (parts : α → β) (build : β → α) : Codec α where
  write a := c.write (parts a)
  read i := (c.read i).map build

/-! ## Numbers -/

/-- The numbers from `low` to `high`. -/
def range (low high : Int) : Codec Int where
  write := .ofInt
  read i := do
    let n ← i.toInt?
    if low ≤ n ∧ n ≤ high then some n else none

/-- The numbers from 0 to `high`. -/
def upTo (high : Nat) : Codec Nat :=
  (range 0 high).view (fun n => n) Int.toNat

/-- A byte. -/
def byte : Codec UInt8 :=
  (upTo 0xFF).view UInt8.toNat Nat.toUInt8

/-- A word. -/
def word : Codec UInt16 :=
  (upTo 0xFFFF).view UInt16.toNat Nat.toUInt16

/-- A count of cycles. -/
def cycles : Codec Nat := upTo 0xFFFFFFFF

/-- A countdown of cycles, which may be overdue. -/
def countdown : Codec Int := range (-0x80000000) 0x7FFFFFFF

/-- A size in bytes. -/
def size : Codec Nat := upTo 0xFFFFFFFFFFFFFFFF

/-! ## Switches and missing values -/

/-- A switch. -/
def flag : Codec Bool where
  write := .flag
  read
    | .flag b => some b
    | _ => none

/-- A value that may be missing. -/
def optional (c : Codec α) : Codec (Option α) where
  write
    | none => .nil
    | some a => c.write a
  read
    | .nil => some none
    | i => (c.read i).map some

/-! ## Memories -/

/-- The bytes that items stand for, behind those of `done`. -/
def readBytes : Array UInt8 → List Item → Option (Array UInt8)
  | done, [] => some done
  | done, i :: items =>
    match byte.read i with
    | some b => readBytes (done.push b) items
    | none => none

/-- A memory of any size. -/
def memory : Codec (Array UInt8) where
  write a := .list (a.toList.map byte.write)
  read
    | .list items => readBytes #[] items
    | .blob bytes => some bytes.toArray
    | _ => none

/-- The items of a row of `n`. A blob may be longer; what it has more is left out. -/
def row? (n : Nat) : Item → Option (List Item)
  | .list items => if items.length = n then some items else none
  | .blob bytes =>
    if n ≤ bytes.length then some ((bytes.take n).map fun b => .natural b.toNat) else none
  | _ => none

/-- The array as a vector of `n` items, if it has so many. -/
def vectorOf? (n : Nat) (a : Array UInt8) : Option (Vector UInt8 n) :=
  if h : a.size = n then some ⟨a, h⟩ else none

/-- A memory of `n` bytes. -/
def bytes (n : Nat) : Codec (Vector UInt8 n) where
  write v := memory.write v.toArray
  read i := do vectorOf? n (← readBytes #[] (← row? n i))

end Codec

end DotMatrix
