/-!
# Text as UTF-8 octets

Texts are written as octets in UTF-8, and octets are read back as text when they are well-formed.
-/

namespace RelationAuth.Utf8

/-- The octets of a text. -/
def encode (text : String) : List UInt8 :=
  text.toUTF8.data.toList

/-- The text of a sequence of octets, if it is well-formed. -/
def decode? (octets : List UInt8) : Option String :=
  String.fromUTF8? ⟨octets.toArray⟩

/-- The length of the well-formed character that a sequence of octets starts with, if there is
one. -/
def leadingCharLength? (octets : List UInt8) : Option Nat :=
  [1, 2, 3, 4].find? fun length =>
    let first := octets.take length
    first.length == length && (decode? first).any fun text => text.length == 1

end RelationAuth.Utf8
