/-!
# Items

A snapshot is a tree of items: numbers, switches, names, lists and tables. `Item` tells apart what
the bytes of a snapshot tell apart, up to how wide a number is written.
-/

namespace DotMatrix

/-- A node of the tree. A natural number is written in a form without a sign, an integer in one with
a sign. Names and blobs are bytes; a real number and an extension are kept as their bytes. -/
inductive Item
  | nil
  | flag (b : Bool)
  | natural (n : Nat)
  | integer (n : Int)
  | real (bytes : List UInt8)
  | name (text : List UInt8)
  | blob (bytes : List UInt8)
  | list (items : List Item)
  | table (entries : List (Item × Item))
  | extension (kind : UInt8) (bytes : List UInt8)
  deriving Inhabited

namespace Item

/-- A number, with a sign only if it needs one. -/
def ofInt (n : Int) : Item :=
  if 0 ≤ n then natural n.toNat else integer n

/-- The number of an item. -/
def toInt? : Item → Option Int
  | natural n => some n
  | integer n => some n
  | _ => none

/-- The bytes of a name in letters, all of them below 128. -/
def spell (name : String) : List UInt8 :=
  name.toList.map fun c => c.toNat.toUInt8

/-- The item of a name in letters. -/
def ofName (name : String) : Item :=
  .name (spell name)

end Item

end DotMatrix
