import DotMatrix.Snapshot.Codec

/-!
# Records and choices

A record is shown as the list of its fields, and a choice as its name. Taken back is more: fields in
a table by their names or their places, and a choice by its place or in a table with what it brings
along.
-/

namespace DotMatrix

/-! ## Names -/

namespace Item

/-- Whether an item can be the key of a field: a name, in letters or as bytes, or a place. -/
def isKey : Item → Bool
  | name _ | blob _ | natural _ => true
  | _ => false

/-- The place of the name that an item stands for. -/
def placeIn? (names : List String) : Item → Option Nat
  | name text | blob text => names.findIdx? fun name => spell name == text
  | natural n => if n < names.length then some n else none
  | _ => none

end Item

/-! ## Records -/

/-- The fields of a record in their order: their names, and how values are shown and taken back. A
field that is missing has no item. -/
structure Fields (α : Type) where
  names : List String
  write : α → List Item
  read : List (Option Item) → Option α

namespace Fields

/-- Puts the values of entries into the places of their keys. Keys without a place do not matter; no
place may be taken twice. -/
def place (names : List String) : List (Option Item) → List (Item × Item) →
    Option (List (Option Item))
  | places, [] => some places
  | places, (key, i) :: entries =>
    if !key.isKey then none
    else match key.placeIn? names with
      | none => place names places entries
      | some p =>
        if places[p]?.join.isSome then none else place names (places.set p (some i)) entries

/-- Items in their places, of which there are `n`. -/
def fill (n : Nat) (items : List Item) : List (Option Item) :=
  items.map some ++ List.replicate (n - items.length) none

/-- The items of the fields with the given names, as far as there are any. -/
def items? (names : List String) : Item → Option (List (Option Item))
  | .list items => if items.length ≤ names.length then some (fill names.length items) else none
  | .blob bytes =>
    some (fill names.length ((bytes.take names.length).map fun b => .natural b.toNat))
  | .table entries => place names (List.replicate names.length none) entries
  | _ => none

end Fields

namespace Codec

variable {α β : Type}

/-- Takes back a field; `missing` is its value if it is missing. -/
def readField (c : Codec α) (missing : Option α) : Option Item → Option α
  | none => missing
  | some i => c.read i

/-- The last field of a record, with the value that it has if it is missing. -/
def lastFieldOr (name : String) (missing : Option α) (c : Codec α) : Fields α where
  names := [name]
  write a := [c.write a]
  read
    | [i] => c.readField missing i
    | _ => none

/-- A field in front of others, with the value that it has if it is missing. -/
def fieldOr (name : String) (missing : Option α) (c : Codec α) (others : Fields β) :
    Fields (α × β) where
  names := name :: others.names
  write v := c.write v.1 :: others.write v.2
  read
    | i :: items => do return (← c.readField missing i, ← others.read items)
    | [] => none

/-- The last field of a record. -/
def lastField (name : String) (c : Codec α) : Fields α :=
  c.lastFieldOr name none

/-- A field in front of others. -/
def field (name : String) (c : Codec α) (others : Fields β) : Fields (α × β) :=
  c.fieldOr name none others

/-- A record. -/
def record (f : Fields α) : Codec α where
  write a := .list (f.write a)
  read i := do f.read (← Fields.items? f.names i)

/-! ## Choices -/

/-- What a choice is taken from: its name or place, and what it brings along. -/
def choiceParts? : Item → Option (Item × Option Item)
  | .table [(tag, i)] => some (tag, some i)
  | .table _ => none
  | tag => some (tag, none)

/-- Whether a choice brings nothing along. -/
def isBare : Option Item → Bool
  | none | some .nil => true
  | _ => false

/-- One of the given choices, which bring nothing along. -/
def choice (choices : List α) (name : α → String) : Codec α where
  write a := .ofName (name a)
  read i := do
    let (tag, content) ← choiceParts? i
    let p ← tag.placeIn? (choices.map name)
    if isBare content then choices[p]? else none

end Codec

end DotMatrix
