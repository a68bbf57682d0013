import DotMatrix.Toml.Number

/-!
# Moments in TOML documents

A moment is a date, a time of day, or both, and with both an offset from universal time. It has to
be in the calendar.
-/

namespace DotMatrix

namespace Toml

/-! ## Fields -/

/-- Reads the number of exactly `n` digits, if it is not above `high`. -/
def field (n high : Nat) (s : List Char) : Option (Nat × List Char) :=
  let digits := s.takeWhile isDigit
  let value := numberOf 10 digits
  if digits.length = n && value ≤ high then some (value, s.drop n) else none

/-- The rest after the given character. -/
def after (c : Char) : List Char → Option (List Char)
  | [] => none
  | d :: s => if d = c then some s else none

/-- The days of a month. -/
def daysIn (year month : Nat) : Nat :=
  if month = 2 then
    if year % 4 = 0 && (year % 100 ≠ 0 || year % 400 = 0) then 29 else 28
  else if month = 4 || month = 6 || month = 9 || month = 11 then 30
  else 31

/-- The rest after a date. -/
def date? (s : List Char) : Option (List Char) := do
  let (year, s) ← field 4 9999 s
  let (month, s) ← field 2 12 (← after '-' s)
  let (day, s) ← field 2 (daysIn year month) (← after '-' s)
  if month = 0 || day = 0 then none else some s

/-- The rest after the fraction of a second, if there is one. -/
def secondFraction? : List Char → Option (List Char)
  | '.' :: s =>
    let digits := s.takeWhile isDigit
    if digits.isEmpty then none else some (s.drop digits.length)
  | s => some s

/-- The rest after the seconds, if there are any. -/
def seconds? : List Char → Option (List Char)
  | ':' :: s => do
    let (_, s) ← field 2 60 s
    secondFraction? s
  | s => some s

/-- The rest after a time of day. -/
def time? (s : List Char) : Option (List Char) := do
  let (_, s) ← field 2 23 s
  let (_, s) ← field 2 59 (← after ':' s)
  seconds? s

/-- Whether the rest is an offset from universal time, or nothing. -/
def isOffset : List Char → Bool
  | [] => true
  | c :: s =>
    if c = 'Z' || c = 'z' then s.isEmpty
    else if c = '+' || c = '-' then
      (do
        let (_, s) ← field 2 23 s
        let (_, s) ← field 2 59 (← after ':' s)
        return s.isEmpty : Option Bool).getD false
    else false

/-- Whether the rest after a date is nothing, or a time with a sign in front of it. -/
def isTimeOfDate : List Char → Bool
  | [] => true
  | c :: s =>
    if c = 'T' || c = 't' || c = ' ' then (time? s).elim false isOffset else false

/-- Whether a word is a date, a time, or both. -/
def isMoment (s : List Char) : Bool :=
  match date? s with
  | some s => isTimeOfDate s
  | none => (time? s).elim false List.isEmpty

end Toml

end DotMatrix
