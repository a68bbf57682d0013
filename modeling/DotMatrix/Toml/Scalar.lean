import DotMatrix.Toml.Moment

/-!
# Words in TOML documents

What stands without quotes is a word: a truth value, a moment, or a number. `Value.ofWord?` tells
them apart; no two kinds share a word.
-/

namespace DotMatrix

namespace Toml

/-- A character that ends a word. -/
def endsWord (c : Char) : Bool :=
  isBlank c || c = '\n' || c = ',' || c = '=' || c = '#' || c = '[' || c = ']' || c = '\x7b' ||
    c = '\x7d'

/-- The value of a word. -/
def Value.ofWord? (s : List Char) : Option Value :=
  if s = ['t', 'r', 'u', 'e'] then some (.boolean true)
  else if s = ['f', 'a', 'l', 's', 'e'] then some (.boolean false)
  else if isMoment s then some (.moment (String.ofList s))
  else (NumberForm.ofWord? s).map (NumberForm.value (String.ofList s))

/-- The length of the word at the start. A date may be followed by a space and a time. -/
def wordLength (s : List Char) : Nat :=
  let word := s.takeWhile fun c => !endsWord c
  match date? word, s.drop word.length with
  | some [], ' ' :: c :: t =>
    if isDigit c then word.length + 1 + ((c :: t).takeWhile fun c => !endsWord c).length
    else word.length
  | _, _ => word.length

/-- Reads the word at the start. -/
def wordValue (s : List Char) : Option (Value × List Char) := do
  let n := wordLength s
  return (← Value.ofWord? (s.take n), s.drop n)

end Toml

end DotMatrix
