import RelationAuth.Text.LowerCase
import RelationAuth.Text.Unsigned
import RelationAuth.Wire.Source

/-!
# Configuration trees

Settings come as a tree of tables, lists and plain values.  Layers such as the environment know
texts only, so a reader converts: a text that spells a number or a flag is one, and a number or a
flag has a text.
-/

namespace RelationAuth

/-- A value of a configuration. -/
inductive ConfigTree where
  | null
  | flag (value : Bool)
  | integer (value : Int)
  | decimal (value : Binary64)
  | text (value : String)
  | list (items : List ConfigTree)
  | table (entries : List (String × ConfigTree))
  deriving Repr, Inhabited

namespace ConfigTree

mutual

/-- The tree of a JSON value.  An integer that needs more than 63 bits is kept as a decimal. -/
def ofJson : Json → ConfigTree
  | .null => null
  | .bool value => flag value
  | .number (.whole value) =>
    if value < signed64Bound then integer value
    else ((Binary64.ofDecimal? false value.toNat.toUInt64 0).map decimal).getD null
  | .number (.fraction value) => decimal value
  | .string value => text value
  | .array items => list (ofJsonItems items)
  | .object members => table (ofJsonMembers members)
  | .unreadable _ => null

/-- The trees of the items of an array. -/
def ofJsonItems : List Json → List ConfigTree
  | [] => []
  | item :: rest => ofJson item :: ofJsonItems rest

/-- The trees of the members of an object. -/
def ofJsonMembers : List (String × Json) → List (String × ConfigTree)
  | [] => []
  | (name, value) :: rest => (name, ofJson value) :: ofJsonMembers rest

end

mutual

/-- A tree of settings as JSON. -/
def toJson : ConfigTree → Json
  | null => .null
  | flag value => .bool value
  | integer value => .number (.whole value)
  | decimal value => .number (.fraction value)
  | text value => .string value
  | list items => .array (toJsonItems items)
  | table entries => .object (toJsonMembers entries)

/-- The items of a list as JSON. -/
def toJsonItems : List ConfigTree → List Json
  | [] => []
  | item :: rest => toJson item :: toJsonItems rest

/-- The entries of a table as JSON. -/
def toJsonMembers : List (String × ConfigTree) → List (String × Json)
  | [] => []
  | (name, value) :: rest => (name, toJson value) :: toJsonMembers rest

end

/-- Words that switch a flag on. -/
def onWords : List String := ["true", "on", "yes"]

/-- The words that switch a setting off. -/
def offWords : List String := ["false", "off", "no"]

/-- The natural number that a text spells: a number of 64 bits, or a word for a flag. -/
def natOfText? (spelling : String) : Option Nat :=
  let word := Text.toLowerCase spelling
  if word ∈ onWords then some 1
  else if word ∈ offWords then some 0
  else Text.parseWord64? spelling.toList

/-- The flag that a text spells out, whatever its case. -/
def flagOfText? (spelling : String) : Option Bool :=
  let word := Text.toLowerCase spelling
  if word = "1" ∨ word ∈ onWords then some true
  else if word = "0" ∨ word ∈ offWords then some false
  else none

/-- A plain value as a text. -/
def asText? : ConfigTree → Option String
  | flag value => some (if value then "true" else "false")
  | integer value => some (toString value)
  | decimal value => some value.plainText
  | text value => some value
  | null | list _ | table _ => none

/-- A plain value as a natural number of 64 bits.  A decimal is rounded. -/
def asNat? : ConfigTree → Option Nat
  | flag value => some (if value then 1 else 0)
  | integer value => if 0 ≤ value then some value.toNat else none
  | decimal value => some (value.nearestNat (word64Bound - 1))
  | text value => natOfText? value
  | null | list _ | table _ => none

/-- A plain value as a flag. -/
def asFlag? : ConfigTree → Option Bool
  | flag value => some value
  | integer value => some (value != 0)
  | decimal value => some (!value.isZero)
  | text value => flagOfText? value
  | null | list _ | table _ => none

instance : Source ConfigTree where
  isNull
    | .null => true
    | _ => false
  text? := asText?
  nat? := asNat?
  int?
    | .integer value => some value
    | tree => tree.asNat?.map Int.ofNat
  flag? := asFlag?
  table?
    | .table entries => some entries
    | _ => none
  row?
    | .list items => some items
    | _ => none
  passesSurplus _ := true
  verbatim := toJson

end ConfigTree

end RelationAuth
