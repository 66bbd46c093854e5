import RelationAuth.Json.Basic

/-!
# Writing JSON

A value is written without blanks.  In strings only the quote, the backslash and the control
characters below the space are escaped, five of them by a letter and the rest by their number.
-/

namespace RelationAuth.Json

/-- A hexadecimal digit in lower case. -/
def hexDigit (value : Nat) : Char :=
  if value < 10 then Char.ofNat (value + 48) else Char.ofNat (value + 87)

/-- A character as it stands inside a string. -/
def escapeChar (symbol : Char) : List Char :=
  if symbol = '"' then ['\\', '"']
  else if symbol = '\\' then ['\\', '\\']
  else if symbol = '\x08' then ['\\', 'b']
  else if symbol = '\t' then ['\\', 't']
  else if symbol = '\n' then ['\\', 'n']
  else if symbol = '\x0c' then ['\\', 'f']
  else if symbol = '\r' then ['\\', 'r']
  else if symbol < ' ' then
    ['\\', 'u', '0', '0', hexDigit (symbol.toNat / 16), hexDigit (symbol.toNat % 16)]
  else [symbol]

/-- A text between quotes, with the escapes that it needs. -/
def quote (text : String) : List Char :=
  '"' :: (text.toList.flatMap escapeChar ++ ['"'])

/-- An integer in decimal digits. -/
def integerText (value : Int) : List Char :=
  if value < 0 then '-' :: Nat.toDigits 10 value.natAbs else Nat.toDigits 10 value.natAbs

/-- The digits of a number. -/
def Number.chars : Number → List Char
  | whole value => integerText value
  | fraction value => value.dataText.toList

mutual

/-- The characters of a value.  An unreadable part is written as null. -/
def chars : Json → List Char
  | null => ['n', 'u', 'l', 'l']
  | bool true => ['t', 'r', 'u', 'e']
  | bool false => ['f', 'a', 'l', 's', 'e']
  | number value => value.chars
  | string value => quote value
  | array items => '[' :: (itemChars items ++ [']'])
  | object members => '{' :: (memberChars members ++ ['}'])
  | unreadable _ => ['n', 'u', 'l', 'l']

/-- The characters of the items of an array, with commas between them. -/
def itemChars : List Json → List Char
  | [] => []
  | [item] => chars item
  | item :: rest => chars item ++ ',' :: itemChars rest

/-- The characters of the members of an object, with commas between them. -/
def memberChars : List (String × Json) → List Char
  | [] => []
  | [(name, value)] => quote name ++ ':' :: chars value
  | (name, value) :: rest => quote name ++ ':' :: (chars value ++ ',' :: memberChars rest)

end

/-- The text of a value, without blanks between its parts. -/
def render (value : Json) : String :=
  String.ofList value.chars

/-- The number of a natural amount. -/
def ofNat (value : Nat) : Json :=
  number (.whole value)

/-- A text, or null where there is none. -/
def ofText? (text : Option String) : Json :=
  (text.map string).getD null

/-- Texts as a list. -/
def ofTexts (texts : List String) : Json :=
  array (texts.map string)

end RelationAuth.Json
