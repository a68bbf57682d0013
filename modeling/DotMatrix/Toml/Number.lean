import DotMatrix.Toml.Text
import DotMatrix.Toml.Value

/-!
# Numbers in TOML documents

A number is read in two steps. Its form comes first: an integer in one of four bases, digits with a
point or an exponent, infinity, or no number; a word without such a form spoils the document. Its
value comes second, and some forms have none: an integer may be too large or have digits that are
not of its base, and other numbers have to be finite in double precision.
-/

namespace DotMatrix

namespace Toml

/-! ## Digits -/

/-- A decimal digit. -/
def isDigit (c : Char) : Bool :=
  '0' ≤ c && c ≤ '9'

/-- A digit of a base, which is at most sixteen. -/
def isDigitOf (base : Nat) (c : Char) : Bool :=
  (hexValue? c).elim false (· < base)

/-- The number that digits spell in a base. -/
def numberOf (base : Nat) (digits : List Char) : Nat :=
  digits.foldl (fun sum c => sum * base + (hexValue? c).getD 0) 0

/-- Whether a word is negative, and the rest of it behind its sign. -/
def splitSign : List Char → Bool × List Char
  | '+' :: s => (false, s)
  | '-' :: s => (true, s)
  | s => (false, s)

/-- Whether underscores stand between digits only; `before` tells whether a digit stands in
front. -/
def underscoresFit (isDigit : Char → Bool) : Bool → List Char → Bool
  | _, [] => true
  | before, c :: s =>
    if c = '_' then before && s.head?.any isDigit && underscoresFit isDigit false s
    else underscoresFit isDigit (isDigit c) s

/-- Whether the underscores of a word stand between digits. The first character of the word, which
may be a sign, counts as one. -/
def isGrouped (isDigit : Char → Bool) : List Char → Bool
  | [] => true
  | c :: s => c ≠ '_' && underscoresFit isDigit true s

/-- A word without its underscores. -/
def ungrouped (s : List Char) : List Char :=
  s.filter (· ≠ '_')

/-! ## Fractions and exponents -/

/-- The parts of a number: its digits, how many of them stand behind the point, and its exponent. -/
structure FloatParts where
  digits : List Char
  places : Nat
  exponent : Int
  deriving DecidableEq, Repr

namespace FloatParts

/-- The least size that is rounded to infinity in double precision. -/
def limit : Nat := Nat.pow 2 1024 - Nat.pow 2 970

/-- Whether the number is finite in double precision. -/
def isFinite (p : FloatParts) : Bool :=
  let digits := p.digits.dropWhile (· = '0')
  let scale := p.exponent - p.places
  let magnitude := digits.length + scale
  let n := numberOf 10 digits
  if digits.isEmpty || magnitude < 300 then true
  else if 320 < magnitude then false
  else if 0 ≤ scale then n * Nat.pow 10 scale.toNat < limit
  else n < limit * Nat.pow 10 (-scale).toNat

end FloatParts

/-- The letter of an exponent. -/
def isExponentLetter (c : Char) : Bool :=
  c = 'e' || c = 'E'

/-- Reads digits, at least one of them, among which underscores may stand. -/
def digitRun (s : List Char) : Option (List Char × List Char) :=
  let run := s.takeWhile fun c => isDigit c || c = '_'
  let digits := run.filter isDigit
  if digits.isEmpty then none else some (digits, s.drop run.length)

/-- Reads the digits behind the point, if there is a point. -/
def fraction? : List Char → Option (List Char × List Char)
  | '.' :: s => digitRun s
  | s => some ([], s)

/-- Reads the exponent with its letter; it is 0 if there is none. -/
def exponent? : List Char → Option (Int × List Char)
  | [] => some (0, [])
  | c :: s =>
    if isExponentLetter c then do
      let (negative, s) := splitSign s
      let (digits, s) ← digitRun s
      let n := numberOf 10 digits
      return (if negative then -(n : Int) else n, s)
    else some (0, c :: s)

/-- The parts of a number without its sign. The digits in front of the point do not start with a
zero unless they are one. -/
def floatParts? (s : List Char) : Option FloatParts := do
  let (whole, tail) ← digitRun s
  if whole.length > 1 && s.head? = some '0' then none
  let (places, tail) ← fraction? tail
  let (exponent, tail) ← exponent? tail
  if tail.isEmpty then
    some { digits := whole ++ places, places := places.length, exponent := exponent }
  else none

/-! ## Forms -/

/-- The form of a number: digits of a base with the sign in front of them, parts, or one of infinity
and no number. -/
inductive NumberForm
  | integer (base : Nat) (digits : List Char)
  | float (parts : FloatParts)
  | unbounded

namespace NumberForm

/-- The form of an integer whose base is marked in front of its digits. -/
def based? (base : Nat) (s : List Char) : Option NumberForm :=
  if isGrouped (isDigitOf base) s && (ungrouped s).all (isDigitOf base) then
    some (.integer base (ungrouped s))
  else none

/-- The form of a decimal number: with a point or an exponent, or an integer. Behind an underscore
an integer may have any digits. -/
def decimal? (s : List Char) : Option NumberForm :=
  let body := (splitSign s).2
  let tail := body.dropWhile isDigit
  if tail.any fun c => c = '.' || isExponentLetter c then
    if isGrouped isDigit s then (floatParts? body).map .float else none
  else if body.isEmpty || body.length > 1 && body.head? = some '0' then none
  else if (tail.isEmpty || tail.head? = some '_') && isGrouped (isDigitOf 16) s then
    some (.integer 10 (ungrouped s))
  else none

/-- The form of the number that a word is. -/
def ofWord? : List Char → Option NumberForm
  | '0' :: 'x' :: s => based? 16 s
  | '0' :: 'o' :: s => based? 8 s
  | '0' :: 'b' :: s => based? 2 s
  | s =>
    let body := (splitSign s).2
    if body = ['i', 'n', 'f'] || body = ['n', 'a', 'n'] then some .unbounded else decimal? s

/-! ## Values -/

/-- The least size that needs more than 127 bits. -/
def sizeLimit : Nat := Nat.pow 2 127

/-- The integer that digits with a sign spell, if it has 128 bits, or 127 and a sign. -/
def integer? (base : Nat) (s : List Char) : Option Int :=
  let (negative, digits) := splitSign s
  let n : Int := if negative then -(numberOf base digits) else numberOf base digits
  if !digits.isEmpty && digits.all (isDigitOf base) && -sizeLimit ≤ n && n < 2 * sizeLimit then
    some n
  else none

/-- The value of a number in the given form, which is the word `text`. -/
def value (text : String) : NumberForm → Value
  | integer base digits =>
    match integer? base digits with
    | some n => .integer n
    | none => .badNumber text
  | float parts => if parts.isFinite then .float text else .badNumber text
  | unbounded => .float text

end NumberForm

end Toml

end DotMatrix
