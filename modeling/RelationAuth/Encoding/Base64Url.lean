/-!
# Base64 in its URL-safe alphabet, without padding

Three octets are written as four characters of six bits each; a last group of one or two octets is
written as two or three characters.  Reading is strict: padding is no part of the alphabet, a group
of one character is refused, and the bits that a short last group leaves over must be zero.  So a
text has at most one reading, and a reading has exactly one text.
-/

namespace RelationAuth.Base64Url

/-- The character that stands for a group of six bits. -/
def digit (value : Nat) : Char :=
  if value < 26 then Char.ofNat (value + 65)
  else if value < 52 then Char.ofNat (value + 71)
  else if value < 62 then Char.ofNat (value - 4)
  else if value = 62 then '-'
  else '_'

/-- The six bits that a character stands for. -/
def digitValue? (symbol : Char) : Option Nat :=
  if 'A' ≤ symbol ∧ symbol ≤ 'Z' then some (symbol.toNat - 65)
  else if 'a' ≤ symbol ∧ symbol ≤ 'z' then some (symbol.toNat - 71)
  else if '0' ≤ symbol ∧ symbol ≤ '9' then some (symbol.toNat + 4)
  else if symbol = '-' then some 62
  else if symbol = '_' then some 63
  else none

/-- The symbols of octets, three of them by four symbols.  The bits that a last symbol has left are
zero. -/
def encodeOctets : List UInt8 → List Char
  | [] => []
  | [a] => [digit (a.toNat / 4), digit (a.toNat % 4 * 16)]
  | [a, b] =>
    [digit (a.toNat / 4), digit (a.toNat % 4 * 16 + b.toNat / 16), digit (b.toNat % 16 * 4)]
  | a :: b :: c :: rest =>
    digit (a.toNat / 4) :: digit (a.toNat % 4 * 16 + b.toNat / 16) ::
      digit (b.toNat % 16 * 4 + c.toNat / 64) :: digit (c.toNat % 64) :: encodeOctets rest

/-- The octets of a sequence of six-bit groups, unless the groups end in a lone one or leave bits
over. -/
def joinGroups? : List Nat → Option (List UInt8)
  | [] => some []
  | [_] => none
  | [p, q] => if q % 16 = 0 then some [UInt8.ofNat (p * 4 + q / 16)] else none
  | [p, q, r] =>
    if r % 4 = 0 then some [UInt8.ofNat (p * 4 + q / 16), UInt8.ofNat (q % 16 * 16 + r / 4)]
    else none
  | p :: q :: r :: s :: rest =>
    (joinGroups? rest).map fun octets =>
      UInt8.ofNat (p * 4 + q / 16) :: UInt8.ofNat (q % 16 * 16 + r / 4) ::
        UInt8.ofNat (r % 4 * 64 + s) :: octets

/-- The octets that symbols spell out. -/
def decodeOctets? (symbols : List Char) : Option (List UInt8) :=
  (symbols.mapM digitValue?).bind joinGroups?

/-- The text that stands for a sequence of octets. -/
def encode (octets : List UInt8) : String :=
  String.ofList (encodeOctets octets)

/-- The octets that a text stands for. -/
def decode? (text : String) : Option (List UInt8) :=
  decodeOctets? text.toList

end RelationAuth.Base64Url
