import DotMatrix.Hex

/-!
# Text in TOML documents

Line ends, comments, and the four kinds of quoted text: with escapes or literal, on one line or on
many. A reader takes the characters from its start on and gives what it has read and the rest.
-/

namespace DotMatrix

namespace Toml

/-- The quote of text with escapes. -/
def doubleQuote : Char := '\x22'

/-- The quote of literal text. -/
def singleQuote : Char := '\x27'

/-- The character that starts an escape. -/
def backslash : Char := '\x5c'

/-- A space or a tab. -/
def isBlank (c : Char) : Bool :=
  c = ' ' || c = '\t'

/-- A control character that may stand nowhere. -/
def isControl (c : Char) : Bool :=
  c ≠ '\t' && (c < ' ' || c = '\x7f')

/-- The document with every line end written as one character. A return alone is refused. -/
def unifyLines : List Char → Option (List Char)
  | [] => some []
  | '\r' :: '\n' :: s => (unifyLines s).map ('\n' :: ·)
  | c :: s => if c = '\r' then none else (unifyLines s).map (c :: ·)

/-- The rest after blanks. -/
def dropBlanks (s : List Char) : List Char :=
  s.dropWhile isBlank

/-- The rest after blanks, line ends and comments; `comment` tells whether a comment is open. -/
def dropFiller (comment : Bool) : List Char → Option (List Char)
  | [] => some []
  | c :: s =>
    if c = '\n' then dropFiller false s
    else if comment then if isControl c then none else dropFiller true s
    else if isBlank c then dropFiller false s
    else if c = '#' then dropFiller true s
    else some (c :: s)

/-- The rest after the end of a line, which may hold blanks and a comment. -/
def dropLineEnd (comment : Bool) : List Char → Option (List Char)
  | [] => some []
  | c :: s =>
    if c = '\n' then some s
    else if comment then if isControl c then none else dropLineEnd true s
    else if isBlank c then dropLineEnd false s
    else if c = '#' then dropLineEnd true s
    else none

/-! ## Escapes -/

/-- The number that exactly `n` hexadecimal digits spell. -/
def hexNumber? (n : Nat) (s : List Char) : Option Nat :=
  let digits := s.take n
  if digits.length = n then
    digits.foldlM (fun sum c => (hexValue? c).map fun d => sum * 16 + d) 0
  else none

/-- The character with the given number, if there is one. -/
def charOf? (n : Nat) : Option Char :=
  if n.isValidChar then some (Char.ofNat n) else none

/-- The character of an escape with `n` hexadecimal digits, and the length of the escape. -/
def codeEscape (n : Nat) (s : List Char) : Option (Char × Nat) := do
  let code ← hexNumber? n s
  return (← charOf? code, n + 1)

/-- The character of the escape that stands behind a backslash, and the length of the escape. -/
def escape : List Char → Option (Char × Nat)
  | [] => none
  | c :: s =>
    match c with
    | 'b' => some ('\x08', 1)
    | 't' => some ('\t', 1)
    | 'n' => some ('\n', 1)
    | 'f' => some ('\x0c', 1)
    | 'r' => some ('\r', 1)
    | 'e' => some ('\x1b', 1)
    | 'x' => codeEscape 2 s
    | 'u' => codeEscape 4 s
    | 'U' => codeEscape 8 s
    | c => if c = doubleQuote || c = backslash then some (c, 1) else none

/-! ## Quoted text -/

/-- Reads text on one line up to its quote, behind the characters of `done`, last first. -/
def lineText (quote : Char) (done : List Char) : List Char → Option (String × List Char)
  | [] => none
  | c :: s =>
    if c = quote then some (String.ofList done.reverse, s)
    else if quote = doubleQuote && c = backslash then
      match escape s with
      | some (c, n) => lineText quote (c :: done) (s.drop n)
      | none => none
    else if isControl c then none
    else lineText quote (c :: done) s
termination_by s => s.length
decreasing_by
  all_goals simp only [List.length_drop, List.length_cons]; omega

/-- The length of the blank stretch behind a backslash that ends a line. -/
def foldLength? (s : List Char) : Option Nat :=
  let stretch := s.takeWhile fun c => isBlank c || c = '\n'
  if (dropBlanks s).head? = some '\n' then some stretch.length else none

/-- What a backslash in text on many lines stands for: nothing at the end of a line, else an escape.
Also gives its length. -/
def foldOrEscape (s : List Char) : Option (List Char × Nat) :=
  match foldLength? s with
  | some n => some ([], n)
  | none => (escape s).map fun (c, n) => ([c], n)

/-- Reads text on many lines up to its three quotes. One or two quotes may stand in front of
them. -/
def blockText (quote : Char) (done : List Char) : List Char → Option (String × List Char)
  | [] => none
  | c :: s =>
    if c = quote then
      let run := min ((s.takeWhile (· = quote)).length + 1) 5
      if 3 ≤ run then
        some (String.ofList (List.replicate (run - 3) quote ++ done).reverse, s.drop (run - 1))
      else blockText quote (c :: done) s
    else if quote = doubleQuote && c = backslash then
      match foldOrEscape s with
      | some (cs, n) => blockText quote (cs ++ done) (s.drop n)
      | none => none
    else if isControl c && c ≠ '\n' then none
    else blockText quote (c :: done) s
termination_by s => s.length
decreasing_by
  all_goals simp only [List.length_drop, List.length_cons]; omega

/-- The rest after a line end that stands right behind the opening quotes. -/
def dropFirstLineEnd : List Char → List Char
  | '\n' :: s => s
  | s => s

/-- Reads quoted text behind its first quote: on many lines if two more quotes follow. -/
def quotedText (quote : Char) (s : List Char) : Option (String × List Char) :=
  if s.take 2 = [quote, quote] then blockText quote [] (dropFirstLineEnd (s.drop 2))
  else lineText quote [] s

end Toml

end DotMatrix
