/-!
# Blank characters

The characters that count as white space in any script.
-/

namespace RelationAuth.Text

/-- Whether a character is white space. -/
def isBlank (symbol : Char) : Bool :=
  let code := symbol.toNat
  (9 ≤ code && code ≤ 13) || code == 0x20 || code == 0x85 || code == 0xA0 || code == 0x1680 ||
    (0x2000 ≤ code && code ≤ 0x200A) || code == 0x2028 || code == 0x2029 || code == 0x202F ||
    code == 0x205F || code == 0x3000

/-- The rest of a text after blanks. -/
def skipBlanks (text : List Char) : List Char :=
  text.dropWhile isBlank

/-- A text without the blanks at its end. -/
def dropTrailingBlanks (text : List Char) : List Char :=
  (skipBlanks text.reverse).reverse

end RelationAuth.Text
