import RelationAuth.Calendar.Instant
import RelationAuth.Groups.Error
import RelationAuth.Json.Basic

/-!
# Groups

Groups form a hierarchy of at most five levels.  Each group keeps its place in it: its parent, its
level, and the path of ids from the root down to itself, joined by points.
-/

namespace RelationAuth.Groups

/-- Whether a group is in use. -/
inductive Status where
  | enabled
  | disabled
  deriving DecidableEq, Repr, Inhabited

namespace Status

/-- The name of a status. -/
def name : Status → String
  | enabled => "enabled"
  | disabled => "disabled"

/-- The status with a name. -/
def ofName (text : String) : Except GroupError Status :=
  match [enabled, disabled].find? fun status => status.name == text with
  | some status => .ok status
  | none => .error (.invalidStatus text)

end Status

/-- Data attached to a group, sorted by name. -/
abbrev Metadata := List (String × Json)

/-- A container in the hierarchy.  Who may do what with it is decided by policies, not here. -/
structure Group where
  id : String
  name : String
  description : String := ""
  owner : String
  parent : Option String := none
  metadata : Metadata := []
  status : Status := .enabled
  createdAt : Instant
  updatedAt : Option Instant := none
  updatedBy : Option String := none
  /-- The ids from the root down to this group, joined by points. -/
  path : String := ""
  /-- The depth in the hierarchy; roots are at level one. -/
  level : Nat := 0
  deriving Repr, Inhabited

/-- The segments of a path, in order.  Points separate them. -/
def pathSegments : List Char → List (List Char)
  | [] => [[]]
  | symbol :: rest =>
    if symbol = '.' then [] :: pathSegments rest
    else
      match pathSegments rest with
      | [] => [[symbol]]
      | first :: others => (symbol :: first) :: others

namespace Group

/-- A group placed as a root: its path is its id alone. -/
def asRoot (group : Group) : Group :=
  { group with parent := none, path := group.id, level := 1 }

/-- A group placed under another one: its path goes on from that of the other. -/
def asChildOf (group parent : Group) : Group :=
  { group with
    parent := some parent.id
    path := parent.path ++ "." ++ group.id
    level := parent.level + 1 }

/-- A group placed below a parent, or as a root. -/
def placeUnder (group : Group) : Option Group → Except GroupError Group
  | none => .ok group.asRoot
  | some parent =>
    if parent.level ≥ maxLevel then .error (.tooDeep maxLevel) else .ok (group.asChildOf parent)

/-- The ids of the groups above a group, nearest first, as its path spells them out. -/
def ancestorIds (group : Group) : List String :=
  ((pathSegments group.path.toList).dropLast.reverse).map String.ofList

/-- Whether the path of a group lies below that of another. -/
def isBelow (group ancestor : Group) : Bool :=
  (ancestor.path ++ ".").toList.isPrefixOf group.path.toList

end Group

/-- Whether a number of levels can be listed. -/
def checkLevel (level : Nat) : Except GroupError Unit :=
  if level = 0 ∨ level > maxLevel then .error (.invalidLevel level) else .ok ()

end RelationAuth.Groups
