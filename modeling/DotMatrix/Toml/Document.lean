import DotMatrix.Toml.Scalar

/-!
# TOML documents

A document is a list of lines: a header opens a table, and every other line gives a key of the open
table its value. `Toml.parse` gives the whole table, or nothing when the text is no document.

Values nest, so readers call each other; `fuel` bounds the calls, and twice the length of the
document is enough of it, as of two calls in a row at least one takes a character. `depth` is how
far values may still nest. A dotted key is bounded like them.
-/

namespace DotMatrix

namespace Toml

/-! ## Keys -/

/-- A character of a key without quotes. -/
def isKeyChar (c : Char) : Bool :=
  isDigit c || ('a' ≤ c && c ≤ 'z') || ('A' ≤ c && c ≤ 'Z') || c = '_' || c = '-'

/-- Reads a key without dots. -/
def key : List Char → Option (String × List Char)
  | [] => none
  | c :: s =>
    if c = doubleQuote || c = singleQuote then lineText c [] s
    else
      let word := (c :: s).takeWhile isKeyChar
      if word.isEmpty then none else some (String.ofList word, (c :: s).drop word.length)

/-- Reads a key of at most so many parts with its dots, and the blanks behind it. -/
def path : Nat → List Char → Option (List String × List Char)
  | 0, _ => none
  | depth + 1, s => do
    let (first, s) ← key (dropBlanks s)
    match dropBlanks s with
    | '.' :: s =>
      let (others, s) ← path depth s
      return (first :: others, s)
    | s => return ([first], s)

/-- How deep values may nest, and how many parts a key may have. -/
def maxDepth : Nat := 80

/-- Reads a key, the sign behind it, and the blanks around them. -/
def assignee (s : List Char) : Option (List String × List Char) := do
  let (keys, s) ← path maxDepth s
  return (keys, dropBlanks (← after '=' s))

/-- Reads a key, the sign behind it, and what stands around the sign: in braces also line ends and
comments. -/
def entryAssignee (s : List Char) : Option (List String × List Char) := do
  let (keys, s) ← path maxDepth s
  let s ← after '=' (← dropFiller false s)
  return (keys, ← dropFiller false s)

/-! ## Values -/

mutual

/-- Reads a value. -/
def value : Nat → Nat → List Char → Option (Value × List Char)
  | 0, _, _ => none
  | _ + 1, _, [] => none
  | fuel + 1, depth, c :: s =>
    if c = doubleQuote || c = singleQuote then
      (quotedText c s).map fun (text, s) => (.text text, s)
    else if c = '[' then
      match depth with
      | 0 => none
      | depth + 1 => items fuel depth [] s
    else if c = '\x7b' then
      match depth with
      | 0 => none
      | depth + 1 => entries fuel depth [] s
    else wordValue (c :: s)

/-- Reads the items of an array behind those of `done`, last first, and its bracket. -/
def items : Nat → Nat → List Value → List Char → Option (Value × List Char)
  | 0, _, _, _ => none
  | fuel + 1, depth, done, s => do
    match ← dropFiller false s with
    | ']' :: s => return (.array false done.reverse, s)
    | s =>
      let (v, s) ← value fuel depth s
      match ← dropFiller false s with
      | ',' :: s => items fuel depth (v :: done) s
      | ']' :: s => return (.array false (v :: done).reverse, s)
      | _ => none

/-- Reads the entries of a table in braces behind those of `done`, and its brace. -/
def entries : Nat → Nat → Table → List Char → Option (Value × List Char)
  | 0, _, _, _ => none
  | fuel + 1, depth, done, s => do
    match ← dropFiller false s with
    | '\x7d' :: s => return (.table .braces done, s)
    | s =>
      let (keys, s) ← entryAssignee s
      let (v, s) ← value fuel depth s
      let done ← done.assign v keys true
      match ← dropFiller false s with
      | ',' :: s => entries fuel depth done s
      | '\x7d' :: s => return (.table .braces done, s)
      | _ => none

end

/-! ## Lines -/

/-- A document that has been read in part: the table so far, and the path of the open table. -/
structure Draft where
  root : Table := []
  here : List String := []

/-- The rest after the brackets that close a header, and after its line. -/
def closeHeader (row : Bool) (s : List Char) : Option (List Char) := do
  let s ← after ']' s
  let s ← if row then after ']' s else some s
  dropLineEnd false s

/-- Reads a header behind its opening brackets. -/
def headerLine (row : Bool) (d : Draft) (s : List Char) : Option (Draft × List Char) := do
  let (keys, s) ← path maxDepth s
  let s ← closeHeader row s
  return ({ root := ← d.root.openAt row keys, here := keys }, s)

/-- Reads a line that gives a key its value. -/
def keyLine (fuel : Nat) (d : Draft) (s : List Char) : Option (Draft × List Char) := do
  let (keys, s) ← assignee s
  let (v, s) ← value fuel maxDepth s
  let s ← dropLineEnd false s
  return ({ d with root := ← d.root.assignAt d.here keys v }, s)

/-- Reads a line that is not empty. -/
def line (fuel : Nat) (d : Draft) (s : List Char) : Option (Draft × List Char) :=
  match s with
  | '[' :: '[' :: s => headerLine true d s
  | '[' :: s => headerLine false d s
  | s => keyLine fuel d s

/-- Reads lines to the end of the document. -/
def lines : Nat → Draft → List Char → Option Table
  | 0, _, _ => none
  | fuel + 1, d, s => do
    match ← dropFiller false s with
    | [] => return d.root
    | s =>
      let (d, s) ← line fuel d s
      lines fuel d s

/-- The document without the mark that may stand in front of it. -/
def dropMark : List Char → List Char
  | '\ufeff' :: s => s
  | s => s

/-- The table of a document. -/
def parse (text : String) : Option Table := do
  let s ← unifyLines (dropMark text.toList)
  lines (2 * s.length + 2) {} s

end Toml

end DotMatrix
