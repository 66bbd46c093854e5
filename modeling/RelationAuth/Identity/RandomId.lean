import RelationAuth.Json.Writer

/-!
# Random ids

A random id is written as five groups of hexadecimal digits with hyphens between them.  The first
digit of the third group tells that the id is random, and the first digit of the fourth group is one
of four; all other digits are free.
-/

namespace RelationAuth.Identity.RandomId

/-- The last digits of a number in base sixteen, as many as asked for. -/
def hexDigits : Nat → Nat → List Char
  | 0, _ => []
  | count + 1, value => hexDigits count (value / 16) ++ [Json.hexDigit (value % 16)]

/-- The id whose free digits are those of a number. -/
def ofNumber (number : Nat) : String :=
  let digits := hexDigits 30 (number / 4)
  let third := '4' :: (digits.drop 12).take 3
  let fourth := Json.hexDigit (8 + number % 4) :: (digits.drop 15).take 3
  String.ofList <|
    ['-'].intercalate
      [digits.take 8, (digits.drop 8).take 4, third, fourth, digits.drop 18]

/-- Whether a symbol is a hexadecimal digit. -/
def isHexDigit (symbol : Char) : Bool :=
  symbol.isDigit || ('a' ≤ symbol && symbol ≤ 'f') || ('A' ≤ symbol && symbol ≤ 'F')

/-- Whether characters have the form of a pattern, in which `x` stands for any digit and `y` for the
first digit of the fourth group. -/
def fits : List Char → List Char → Bool
  | [], [] => true
  | form :: forms, symbol :: symbols =>
    (match form with
      | 'x' => isHexDigit symbol
      | 'y' => symbol ∈ ['8', '9', 'a', 'b', 'A', 'B']
      | _ => symbol = form) && fits forms symbols
  | _, _ => false

/-- The form of random ids. -/
def form : String := "xxxxxxxx-xxxx-4xxx-yxxx-xxxxxxxxxxxx"

/-- Whether a text has the form of a random id. -/
def isRandomId (text : String) : Bool :=
  fits form.toList text.toList

end RelationAuth.Identity.RandomId
