import RelationAuth.Number.Bounds

/-!
# Unsigned numbers as text

A number of 64 bits is written in decimal.  The reader accepts leading zeros and one plus sign.
-/

namespace RelationAuth.Text

/-- The number that decimal digits spell. -/
def natOfDigits (digits : List Char) : Nat :=
  digits.foldl (fun value digit => value * 10 + (digit.toNat - 48)) 0

/-- The decimal digits of a number. -/
def digitsOfNat (value : Nat) : List Char :=
  Nat.toDigits 10 value

/-- The text without its leading plus sign, if it has one. -/
def withoutPlus : List Char → List Char
  | '+' :: rest => rest
  | text => text

/-- The number of 64 bits that a text spells: one or more digits, after at most one plus sign. -/
def parseWord64? (text : List Char) : Option Nat :=
  let digits := withoutPlus text
  if digits ≠ [] ∧ digits.all Char.isDigit ∧ natOfDigits digits < word64Bound then
    some (natOfDigits digits)
  else none

end RelationAuth.Text
