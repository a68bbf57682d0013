import DotMatrix.Snapshot.Item.Basic
import DotMatrix.Snapshot.Item.Number

/-!
# Writing items

An item is a head, and behind it the items or the bytes that it holds. The head tells the kind and,
in as few bytes as there is a form for, the number or the count: a small one is part of the first
byte, others stand behind it in one, two, four or eight bytes.
-/

namespace DotMatrix

namespace Item

/-- The bytes of a number without a sign. -/
def writeNatural (n : Nat) : List UInt8 :=
  if n < 0x80 then [n.toUInt8]
  else if n < 0x100 then 0xCC :: bigEndian 1 n
  else if n < 0x10000 then 0xCD :: bigEndian 2 n
  else if n < 0x100000000 then 0xCE :: bigEndian 4 n
  else 0xCF :: bigEndian 8 n

/-- The bytes of a number with a sign. -/
def writeInteger (n : Int) : List UInt8 :=
  if -0x20 ≤ n ∧ n < 0 then bigEndian 1 (complement 1 n)
  else if -0x80 ≤ n ∧ n < 0x80 then 0xD0 :: bigEndian 1 (complement 1 n)
  else if -0x8000 ≤ n ∧ n < 0x8000 then 0xD1 :: bigEndian 2 (complement 2 n)
  else if -0x80000000 ≤ n ∧ n < 0x80000000 then 0xD2 :: bigEndian 4 (complement 4 n)
  else 0xD3 :: bigEndian 8 (complement 8 n)

/-- The head of a list of `n` items. -/
def listHead (n : Nat) : List UInt8 :=
  if n < 0x10 then [0x90 ||| n.toUInt8]
  else if n < 0x10000 then 0xDC :: bigEndian 2 n
  else 0xDD :: bigEndian 4 n

/-- The head of a table of `n` entries. -/
def tableHead (n : Nat) : List UInt8 :=
  if n < 0x10 then [0x80 ||| n.toUInt8]
  else if n < 0x10000 then 0xDE :: bigEndian 2 n
  else 0xDF :: bigEndian 4 n

/-- The head of a name of `n` bytes. -/
def nameHead (n : Nat) : List UInt8 :=
  if n < 0x20 then [0xA0 ||| n.toUInt8]
  else if n < 0x100 then 0xD9 :: bigEndian 1 n
  else if n < 0x10000 then 0xDA :: bigEndian 2 n
  else 0xDB :: bigEndian 4 n

/-- The head of a blob of `n` bytes. -/
def blobHead (n : Nat) : List UInt8 :=
  if n < 0x100 then 0xC4 :: bigEndian 1 n
  else if n < 0x10000 then 0xC5 :: bigEndian 2 n
  else 0xC6 :: bigEndian 4 n

/-- The head of an extension of `n` bytes. -/
def extensionHead (n : Nat) : List UInt8 :=
  if n < 0x100 then 0xC7 :: bigEndian 1 n
  else if n < 0x10000 then 0xC8 :: bigEndian 2 n
  else 0xC9 :: bigEndian 4 n

mutual

/-- The bytes of an item. -/
def write : Item → List UInt8
  | nil => [0xC0]
  | flag b => [if b then 0xC3 else 0xC2]
  | natural n => writeNatural n
  | integer n => writeInteger n
  | real bytes => (if bytes.length = 4 then 0xCA else 0xCB) :: bytes
  | name text => nameHead text.length ++ text
  | blob bytes => blobHead bytes.length ++ bytes
  | list items => listHead items.length ++ writeAll [] items
  | table entries => tableHead entries.length ++ writeEntries [] entries
  | extension kind bytes => extensionHead bytes.length ++ kind :: bytes

/-- The bytes of some items behind those of `done`, last first. -/
def writeAll (done : List UInt8) : List Item → List UInt8
  | [] => done.reverse
  | i :: items => writeAll ((write i).reverse ++ done) items

/-- The bytes of some entries behind those of `done`, last first: the key of each, then its item. -/
def writeEntries (done : List UInt8) : List (Item × Item) → List UInt8
  | [] => done.reverse
  | (key, i) :: entries => writeEntries ((write i).reverse ++ ((write key).reverse ++ done)) entries

end

end Item

end DotMatrix
