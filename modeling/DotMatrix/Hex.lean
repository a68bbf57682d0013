/-!
# Hexadecimal text

`upperHex` and `lowerHex` write a number in base sixteen, padded with zeros to a least width.
`hexOfBytes` writes bytes with two digits each, and `bytesOfHex?` reads them again.
-/

namespace DotMatrix

/-- The digits of `n` in lower case, at least `width` of them. -/
def lowerHex (width n : Nat) : String :=
  let digits := Nat.toDigits 16 n
  String.ofList (List.replicate (width - digits.length) '0' ++ digits)

/-- The digits of `n` in upper case, at least `width` of them. -/
def upperHex (width n : Nat) : String :=
  let digits := (Nat.toDigits 16 n).map Char.toUpper
  String.ofList (List.replicate (width - digits.length) '0' ++ digits)

/-- The digit of a number below sixteen. -/
def hexDigit (n : UInt8) : Char :=
  Char.ofNat (if n < 10 then 48 + n.toNat else 87 + n.toNat)

/-- The number of a digit, in either case. -/
def hexValue? (c : Char) : Option Nat :=
  if '0' ≤ c ∧ c ≤ '9' then some (c.toNat - '0'.toNat)
  else if 'a' ≤ c ∧ c ≤ 'f' then some (c.toNat - 'a'.toNat + 10)
  else if 'A' ≤ c ∧ c ≤ 'F' then some (c.toNat - 'A'.toNat + 10)
  else none

/-- Adds the two digits of a byte. -/
def pushByte (text : String) (b : UInt8) : String :=
  (text.push (hexDigit (b >>> 4))).push (hexDigit (b &&& 0x0F))

/-- Two digits for every byte. -/
def hexOfBytes (bytes : Array UInt8) : String :=
  bytes.foldl pushByte ""

/-- The bytes of pairs of digits, behind those of `sum`. -/
def bytesOfDigits? (sum : Array UInt8) : List Char → Option (Array UInt8)
  | [] => some sum
  | [_] => none
  | high :: low :: rest =>
    match hexValue? high, hexValue? low with
    | some h, some l => bytesOfDigits? (sum.push (h * 16 + l).toUInt8) rest
    | _, _ => none

/-- The bytes that pairs of digits spell. -/
def bytesOfHex? (text : String) : Option (Array UInt8) :=
  bytesOfDigits? #[] text.toList

end DotMatrix
