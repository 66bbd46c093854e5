import RelationAuth.Number.Binary64
import RelationAuth.Number.Bounds

/-!
# JSON values

A value keeps the members of an object in the order in which they were written, repeated names
included, so that each reader of a value decides what a repetition means.  Numbers remember whether
they were written as integers.
-/

namespace RelationAuth

/-- A JSON number: an integer of 64 bits, signed or unsigned, or any other finite value. -/
inductive Json.Number where
  | whole (value : Int)
  | fraction (value : Binary64)
  deriving DecidableEq, Repr, Inhabited

/-- Where a reader stands when it gives up on a part of a text that it cannot read. -/
inductive Json.Halt where
  /-- Behind the part, so that it can go on with what follows. -/
  | behind
  /-- Inside the part, so that it is lost. -/
  | inside
  deriving DecidableEq, Repr, Inhabited

/-- A JSON value.  A text that is well-formed JSON can still denote no value: a string with an
unpaired surrogate, a number beyond every finite one, or a nesting deeper than a reader follows.
Such a part is `unreadable`; it does no harm where nothing looks at it. -/
inductive Json where
  | null
  | bool (value : Bool)
  | number (value : Json.Number)
  | string (value : String)
  | array (items : List Json)
  | object (members : List (String × Json))
  | unreadable (halt : Json.Halt)
  deriving Repr, Inhabited

namespace Json

/-- The deepest nesting of arrays and objects that a reader follows. -/
def maxDepth : Nat := 127

mutual

/-- A value in which every array or object nested deeper than a number of levels is unreadable. -/
def limitDepth (levels : Nat) : Json → Json
  | array items =>
    if levels = 0 then unreadable .inside else array (limitItems (levels - 1) items)
  | object members =>
    if levels = 0 then unreadable .inside else object (limitMembers (levels - 1) members)
  | other => other

/-- The items of an array, each limited in depth. -/
def limitItems (levels : Nat) : List Json → List Json
  | [] => []
  | item :: rest => limitDepth levels item :: limitItems levels rest

/-- The members of an object, each limited in depth. -/
def limitMembers (levels : Nat) : List (String × Json) → List (String × Json)
  | [] => []
  | (name, value) :: rest => (name, limitDepth levels value) :: limitMembers levels rest

end

mutual

/-- Where a reader stands that wants all of a value and gives up on the first unreadable part; it
gives up on none of a readable value.  It comes to the end of an array or an object only from behind
the last item. -/
def halt? : Json → Option Halt
  | unreadable halt => some halt
  | array items => haltItems? items
  | object members => haltMembers? members
  | _ => none

/-- Where a reader stands that wants all items of an array. -/
def haltItems? : List Json → Option Halt
  | [] => none
  | item :: rest =>
    match halt? item with
    | none => haltItems? rest
    | some halt => some (if rest.isEmpty then halt else .inside)

/-- Where a reader stands that wants all members of an object. -/
def haltMembers? : List (String × Json) → Option Halt
  | [] => none
  | (_, value) :: rest =>
    match halt? value with
    | none => haltMembers? rest
    | some halt => some (if rest.isEmpty then halt else .inside)

end

/-- A table sorted by name, with one entry put into it; an entry of the same name is replaced. -/
def insertMember {α : Type} (name : String) (value : α) :
    List (String × α) → List (String × α)
  | [] => [(name, value)]
  | (other, kept) :: rest =>
    if name < other then (name, value) :: (other, kept) :: rest
    else if name = other then (name, value) :: rest
    else (other, kept) :: insertMember name value rest

/-- The members of an object as a table sorted by name; of repeated names the last one counts. -/
def sortMembers {α : Type} (members : List (String × α)) : List (String × α) :=
  members.foldl (fun table member => insertMember member.1 member.2 table) []

mutual

/-- A value as data: every part of it readable, and every object a table sorted by name. -/
def normalize? : Json → Option Json
  | unreadable _ => none
  | array items => (normalizeItems? items).map array
  | object members => (normalizeMembers? members).map fun table => object (sortMembers table)
  | other => some other

/-- The items of an array as data. -/
def normalizeItems? : List Json → Option (List Json)
  | [] => some []
  | item :: rest => do
    let first ← normalize? item
    let others ← normalizeItems? rest
    return first :: others

/-- The members of an object as data, in their order. -/
def normalizeMembers? : List (String × Json) → Option (List (String × Json))
  | [] => some []
  | (name, value) :: rest => do
    let first ← normalize? value
    let others ← normalizeMembers? rest
    return (name, first) :: others

end

end Json

end RelationAuth
