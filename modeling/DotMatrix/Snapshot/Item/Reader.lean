import DotMatrix.Snapshot.Item.Basic
import DotMatrix.Snapshot.Item.Number

/-!
# Reading items

`Item.read` takes one item off the front of some bytes and leaves the rest. It takes every form of a
number or a count, also one that is wider than it needs to be. Items nest only so deep: the reader
goes by the depth that is left, and refuses what lies deeper.
-/

namespace DotMatrix

namespace Item

/-! ## Heads -/

/-- What the first bytes of an item tell: the whole item, or what is to follow. -/
inductive Head
  /-- An item that holds no other, and is complete. -/
  | whole (i : Item)
  /-- A list of `n` items. -/
  | list (n : Nat)
  /-- A table of `n` entries. -/
  | table (n : Nat)
  /-- An extension of `n` bytes. -/
  | extension (n : Nat)

namespace Head

/-- Reads a number of `width` bytes without a sign. -/
def readNatural (width : Nat) (s : List UInt8) : Option (Head × List UInt8) := do
  let (n, s) ← readBigEndian width 0 s
  return (.whole (.natural n), s)

/-- Reads a number of `width` bytes with a sign. -/
def readInteger (width : Nat) (s : List UInt8) : Option (Head × List UInt8) := do
  let (n, s) ← readBigEndian width 0 s
  return (.whole (.integer (signed width n)), s)

/-- Reads a count of `width` bytes. -/
def readCount (count : Nat → Head) (width : Nat) (s : List UInt8) :
    Option (Head × List UInt8) := do
  let (n, s) ← readBigEndian width 0 s
  return (count n, s)

/-- Reads `n` bytes. -/
def readBytes (item : List UInt8 → Item) (n : Nat) (s : List UInt8) :
    Option (Head × List UInt8) := do
  let (bytes, s) ← takeExactly n s
  return (.whole (item bytes), s)

/-- Reads a count of `width` bytes, and as many bytes. -/
def readCounted (item : List UInt8 → Item) (width : Nat) (s : List UInt8) :
    Option (Head × List UInt8) := do
  let (n, s) ← readBigEndian width 0 s
  readBytes item n s

/-- Reads the rest of a head that starts with `b`, a byte from `0xC0` to `0xDF`. -/
def readWide (b : UInt8) (s : List UInt8) : Option (Head × List UInt8) :=
  match b with
  | 0xC0 => some (.whole .nil, s)
  | 0xC2 => some (.whole (.flag false), s)
  | 0xC3 => some (.whole (.flag true), s)
  | 0xC4 => readCounted .blob 1 s
  | 0xC5 => readCounted .blob 2 s
  | 0xC6 => readCounted .blob 4 s
  | 0xC7 => readCount .extension 1 s
  | 0xC8 => readCount .extension 2 s
  | 0xC9 => readCount .extension 4 s
  | 0xCA => readBytes .real 4 s
  | 0xCB => readBytes .real 8 s
  | 0xCC => readNatural 1 s
  | 0xCD => readNatural 2 s
  | 0xCE => readNatural 4 s
  | 0xCF => readNatural 8 s
  | 0xD0 => readInteger 1 s
  | 0xD1 => readInteger 2 s
  | 0xD2 => readInteger 4 s
  | 0xD3 => readInteger 8 s
  | 0xD4 => some (.extension 1, s)
  | 0xD5 => some (.extension 2, s)
  | 0xD6 => some (.extension 4, s)
  | 0xD7 => some (.extension 8, s)
  | 0xD8 => some (.extension 16, s)
  | 0xD9 => readCounted .name 1 s
  | 0xDA => readCounted .name 2 s
  | 0xDB => readCounted .name 4 s
  | 0xDC => readCount .list 2 s
  | 0xDD => readCount .list 4 s
  | 0xDE => readCount .table 2 s
  | 0xDF => readCount .table 4 s
  | _ => none

/-- Reads the head of an item. -/
def read : List UInt8 → Option (Head × List UInt8)
  | [] => none
  | b :: s =>
    if b < 0x80 then some (.whole (.natural b.toNat), s)
    else if b < 0x90 then some (.table (b &&& 0x0F).toNat, s)
    else if b < 0xA0 then some (.list (b &&& 0x0F).toNat, s)
    else if b < 0xC0 then readBytes .name (b &&& 0x1F).toNat s
    else if b < 0xE0 then readWide b s
    else some (.whole (.integer (signed 1 b.toNat)), s)

end Head

/-! ## Items -/

/-- Reads `n` values one after another, behind those of `done`, last first. -/
def readMany {α : Type} (read : List UInt8 → Option (α × List UInt8)) :
    Nat → List α → List UInt8 → Option (List α × List UInt8)
  | 0, done, s => some (done.reverse, s)
  | n + 1, done, s =>
    match read s with
    | some (a, s) => readMany read n (a :: done) s
    | none => none

/-- Reads two values one after the other. -/
def readPair {α : Type} (read : List UInt8 → Option (α × List UInt8)) (s : List UInt8) :
    Option ((α × α) × List UInt8) := do
  let (a, s) ← read s
  let (b, s) ← read s
  return ((a, b), s)

/-- Reads the kind and the `n` bytes of an extension. -/
def readExtension (n : Nat) : List UInt8 → Option (Item × List UInt8)
  | [] => none
  | kind :: s => do
    let (bytes, s) ← takeExactly n s
    return (extension kind bytes, s)

/-- Reads an item that nests at most `depth` deep. -/
def readAt : Nat → List UInt8 → Option (Item × List UInt8)
  | 0, s =>
    match Head.read s with
    | some (.whole i, s) => some (i, s)
    | _ => none
  | depth + 1, s =>
    match Head.read s with
    | some (.whole i, s) => some (i, s)
    | some (.list n, s) => do
      let (items, s) ← readMany (fun s => readAt depth s) n [] s
      return (list items, s)
    | some (.table n, s) => do
      let (entries, s) ← readMany (readPair fun s => readAt depth s) n [] s
      return (table entries, s)
    | some (.extension n, s) => readExtension n s
    | none => none

/-- How deep items may nest. -/
def maxDepth : Nat := 1023

/-- Reads an item. -/
def read (s : List UInt8) : Option (Item × List UInt8) :=
  readAt maxDepth s

end Item

end DotMatrix
