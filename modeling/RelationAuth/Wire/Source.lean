import RelationAuth.Json.Reader

/-!
# Reading typed values

A typed value is read from a *source*: a tree whose leaves can be asked for a text, an integer or a
flag, and whose inner nodes are tables or rows.  JSON is one source; a configuration merged from
several layers, which converts between texts and numbers, is another.  A record is read from a table
by its field names or from a row by their order.
-/

namespace RelationAuth

/-- Trees from which typed values are read. -/
class Source (ν : Type) where
  /-- Whether a node stands for the absence of a value. -/
  isNull : ν → Bool
  text? : ν → Option String
  /-- A node as a natural number. -/
  nat? : ν → Option Nat
  /-- A node as an integer. -/
  int? : ν → Option Int
  flag? : ν → Option Bool
  /-- The entries of a table in their order, repeated names included. -/
  table? : ν → Option (List (String × ν))
  row? : ν → Option (List ν)
  /-- Whether items of a row after the last field of a record are passed over. -/
  passesSurplus : ν → Bool
  /-- A node as JSON, without conversions between texts and numbers. -/
  verbatim : ν → Json

instance : Source Json where
  isNull
    | .null => true
    | _ => false
  text?
    | .string text => some text
    | _ => none
  nat?
    | .number (.whole value) => if 0 ≤ value then some value.toNat else none
    | _ => none
  int?
    | .number (.whole value) => some value
    | _ => none
  flag?
    | .bool value => some value
    | _ => none
  table?
    | .object members => some members
    | _ => none
  row?
    | .array items => some items
    | _ => none
  passesSurplus _ := false
  verbatim node := node

namespace Source

variable {ν : Type} [Source ν]

/-- A number below a bound. -/
def below? (bound : Nat) (node : ν) : Option Nat :=
  (nat? node).filter (· < bound)

/-- A number of 64 bits. -/
def word64? (node : ν) : Option Nat :=
  below? word64Bound node

/-- A number of 32 bits. -/
def word32? (node : ν) : Option Nat :=
  below? word32Bound node

/-- An integer of 64 bits with a sign. -/
def signed64? (node : ν) : Option Int :=
  (int? node).filter isSigned64

/-- A node as a value that may be absent. -/
def optional? {α : Type} (read : ν → Option α) (node : ν) : Option (Option α) :=
  if isNull node then some none else (read node).map some

/-- A node as a row of values. -/
def list? {α : Type} (read : ν → Option α) (node : ν) : Option (List α) :=
  (row? node).bind fun items => items.mapM read

/-- A node as a table of values sorted by name; of repeated names the last one counts. -/
def dictionary? {α : Type} (read : ν → Option α) (node : ν) : Option (List (String × α)) := do
  let entries ← table? node
  let values ← entries.mapM fun entry => (read entry.2).map (entry.1, ·)
  return Json.sortMembers values

/-- What a record holds under the name of a field. -/
inductive Slot (ν : Type) where
  /-- The field has a value. -/
  | filled (node : ν)
  /-- A table without an entry of this name. -/
  | missing
  /-- A row that ends before this field. -/
  | beyond

/-- The fields of a record: a name and a slot for each. -/
abbrev Record (ν : Type) := List (String × Slot ν)

/-- A table as a record.  No known field may occur twice; other entries are ignored. -/
def recordOfTable? (names : List String) (entries : List (String × ν)) : Option (Record ν) :=
  names.mapM fun name =>
    match entries.filter (·.1 == name) with
    | [] => some (name, .missing)
    | [entry] => some (name, .filled entry.2)
    | _ => none

/-- A row as a record.  It may be shorter than the record but not longer. -/
def recordOfRow? (names : List String) (items : List ν) : Option (Record ν) :=
  if items.length ≤ names.length then
    let ends : List (Slot ν) := List.replicate (names.length - items.length) .beyond
    some (names.zip (items.map .filled ++ ends))
  else none

/-- A record with some names, read from a table, or from a row that gives its fields in their
order. -/
def record? (names : List String) (node : ν) : Option (Record ν) :=
  match table? node with
  | some entries => recordOfTable? names entries
  | none => (row? node).bind fun items =>
    recordOfRow? names (if passesSurplus node then items.take names.length else items)

/-- What a record holds under a name. -/
def Record.slot (record : Record ν) (name : String) : Slot ν :=
  (record.lookup name).getD .missing

/-- A field that must have a value. -/
def Record.required {α : Type} (record : Record ν) (name : String) (read : ν → Option α) :
    Option α :=
  match record.slot name with
  | .filled node => read node
  | _ => none

/-- A field that takes a default where it has no value. -/
def Record.defaulted {α : Type} (record : Record ν) (name : String) (default : α)
    (read : ν → Option α) : Option α :=
  match record.slot name with
  | .filled node => read node
  | _ => some default

/-- A field that is empty where a table leaves it out.  A row must reach it. -/
def Record.nullable {α : Type} (record : Record ν) (name : String) (read : ν → Option α) :
    Option (Option α) :=
  match record.slot name with
  | .filled node => optional? read node
  | .missing => some none
  | .beyond => none

/-- A field that is empty where a record has no value for it. -/
def Record.omissible {α : Type} (record : Record ν) (name : String) (read : ν → Option α) :
    Option (Option α) :=
  record.defaulted name none (optional? read)

/-- A choice among named constants: the bare name, or a table of one entry that gives it no
value. -/
def constant? {α : Type} (choose : String → Option α) (node : ν) : Option α :=
  match text? node with
  | some name => choose name
  | none =>
    match table? node with
    | some [(name, value)] => if isNull value then choose name else none
    | _ => none

end Source

end RelationAuth
