import RelationAuth.Text.Utf8

/-!
# Form-encoded queries

The names and values of a query are written with an equals sign between them and an ampersand
between the pairs.  Letters, digits and four marks stand for themselves, a blank is written as a
plus sign, and every other octet as a percent sign with two hexadecimal digits.
-/

namespace RelationAuth.FormUrl

/-- Whether an octet stands for itself. -/
def isPlain (octet : UInt8) : Bool :=
  let code := octet.toNat
  (48 ≤ code && code ≤ 57) || (65 ≤ code && code ≤ 90) || (97 ≤ code && code ≤ 122) ||
    code == 42 || code == 45 || code == 46 || code == 95

/-- A hexadecimal digit in upper case. -/
def hexDigit (value : Nat) : Char :=
  if value < 10 then Char.ofNat (value + 48) else Char.ofNat (value + 55)

/-- The symbols of an octet: itself if it is plain, a plus sign for a blank, and its two hexadecimal
digits after a percent sign else. -/
def encodeOctet (octet : UInt8) : List Char :=
  if isPlain octet then [Char.ofNat octet.toNat]
  else if octet.toNat = 32 then ['+']
  else ['%', hexDigit (octet.toNat / 16), hexDigit (octet.toNat % 16)]

/-- The characters of a name or a value. -/
def encodeText (text : String) : List Char :=
  (Utf8.encode text).flatMap encodeOctet

/-- The pairs of names and values of a form, one after the other. -/
def encodePairs : List (String × String) → List Char
  | [] => []
  | [(name, value)] => encodeText name ++ '=' :: encodeText value
  | (name, value) :: rest => encodeText name ++ '=' :: (encodeText value ++ '&' :: encodePairs rest)

/-- The text of a query. -/
def encode (pairs : List (String × String)) : String :=
  String.ofList (encodePairs pairs)

end RelationAuth.FormUrl
