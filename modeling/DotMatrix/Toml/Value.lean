/-!
# Values of a TOML document

A document is a table: keys with their values, in the order in which they were written. A table
remembers how it came to be, because that decides whether the document may still add to it.
-/

namespace DotMatrix

namespace Toml

/-- How a table came to be. -/
inductive Origin
  /-- Written in braces, and complete with them. -/
  | braces
  /-- Opened by a header of its own. -/
  | header
  /-- Passed through by the header of a table inside it. -/
  | passed
  /-- Passed through by a dotted key. -/
  | dotted
  deriving DecidableEq, Repr

/-- A value. Numbers with a fraction and moments are kept as written. A number may have the form of
one and yet stand for none, being too large or having foreign digits: a document may hold it, as
long as nobody asks for it. `rows` marks an array of tables that headers have made, one row each. -/
inductive Value
  | text (text : String)
  | integer (n : Int)
  | float (text : String)
  | badNumber (text : String)
  | boolean (b : Bool)
  | moment (text : String)
  | array (rows : Bool) (items : List Value)
  | table (origin : Origin) (entries : List (String × Value))
  deriving Inhabited

/-- The entries of a table. -/
abbrev Table := List (String × Value)

namespace Table

/-- The value of a key. -/
def find? (t : Table) (key : String) : Option Value :=
  t.lookup key

/-- Whether a key has a value. -/
def has (t : Table) (key : String) : Bool :=
  (t.find? key).isSome

/-- Gives a key a value, in its old place if it has one. -/
def set : Table → String → Value → Table
  | [], key, v => [(key, v)]
  | (k, old) :: rest, key, v => if k = key then (k, v) :: rest else (k, old) :: set rest key v

/-- Changes the table of the last row. -/
def alterLast (f : Table → Option Table) (rows : List Value) : Option (List Value) :=
  match rows.getLast? with
  | some (.table origin t) => (f t).map fun t => rows.dropLast ++ [.table origin t]
  | _ => none

/-! ## Headers -/

/-- Changes the table at the end of a path of a header. Tables on the way that are missing come to
be; of an array of tables the last row is meant. -/
def alterAt (f : Table → Option Table) : List String → Table → Option Table
  | [], t => f t
  | key :: path, t =>
    match t.find? key with
    | none => (alterAt f path []).map fun sub => t.set key (.table .passed sub)
    | some (.table .braces _) => none
    | some (.table origin sub) => (alterAt f path sub).map fun sub => t.set key (.table origin sub)
    | some (.array true rows) =>
      (alterLast (fun sub => alterAt f path sub) rows).map fun rows => t.set key (.array true rows)
    | some _ => none

/-- Opens a table by its header: a new one, or one that was only passed through by headers. -/
def openHere (key : String) (t : Table) : Option Table :=
  match t.find? key with
  | none => some (t.set key (.table .header []))
  | some (.table .passed sub) => some (t.set key (.table .header sub))
  | some _ => none

/-- Adds a row to an array of tables by its header. -/
def openRowHere (key : String) (t : Table) : Option Table :=
  match t.find? key with
  | none => some (t.set key (.array true [.table .header []]))
  | some (.array true rows) => some (t.set key (.array true (rows ++ [.table .header []])))
  | some _ => none

/-- Carries out the header with the given path; `row` tells that it adds a row. -/
def openAt (row : Bool) (path : List String) (t : Table) : Option Table :=
  match path.getLast? with
  | none => none
  | some key => alterAt (if row then openRowHere key else openHere key) path.dropLast t

/-! ## Keys -/

/-- Gives a dotted key its value. `free` tells whether the table itself may take a key: one that is
reached by a dotted key may only if dotted keys made it. -/
def assign (v : Value) : List String → Bool → Table → Option Table
  | [], _, _ => none
  | [key], free, t => if free && !t.has key then some (t.set key v) else none
  | key :: path, _, t =>
    match t.find? key with
    | none => (assign v path true []).map fun sub => t.set key (.table .dotted sub)
    | some (.table .dotted sub) =>
      (assign v path true sub).map fun sub => t.set key (.table .dotted sub)
    | some (.table .passed sub) =>
      (assign v path false sub).map fun sub => t.set key (.table .passed sub)
    | some (.array true rows) =>
      (alterLast (fun sub => assign v path false sub) rows).map fun rows =>
        t.set key (.array true rows)
    | some _ => none

/-- Gives a dotted key its value in the table that the header `here` has opened. -/
def assignAt (here path : List String) (v : Value) (t : Table) : Option Table :=
  alterAt (assign v path true) here t

end Table

end Toml

end DotMatrix
