import RelationAuth.Groups.Draft
import RelationAuth.Groups.Page
import RelationAuth.Table

/-!
# The group store

The store keeps groups by id, and for each group and kind of member the ids of the members as a
sorted list without repetitions.  Groups are listed in the order of their creation.
-/

namespace RelationAuth.Groups

/-- Groups and their members. -/
structure GroupStore where
  groups : Table String Group
  /-- The members by group and kind. -/
  members : Table (String × String) (List String)
  deriving Inhabited

/-- A sorted list with an id put into its place, unless it is there already. -/
def insertId (id : String) : List String → List String
  | [] => [id]
  | first :: rest =>
    if id < first then id :: first :: rest
    else if id = first then first :: rest
    else first :: insertId id rest

namespace GroupStore

/-- The store without groups. -/
def empty : GroupStore :=
  { groups := Table.empty, members := Table.empty }

/-- The number of groups. -/
def size (store : GroupStore) : Nat :=
  store.groups.size

/-- The group with an id. -/
def retrieve (store : GroupStore) (id : String) : Except GroupError Group :=
  match store.groups.find? id with
  | some group => .ok group
  | none => .error .notFound

/-- The group that a group is to be placed under.  An empty id names no parent. -/
def parentOf (store : GroupStore) (group : Group) : Except GroupError (Option Group) :=
  match group.parent.filter (· ≠ "") with
  | none => .ok none
  | some parentId =>
    match store.groups.find? parentId with
    | some parent => .ok (some parent)
    | none => .error .parentNotFound

/-- A group placed in the hierarchy, and the store with it added.  Its id must be free. -/
def save (store : GroupStore) (group : Group) : Except GroupError (Group × GroupStore) := do
  if store.groups.contains group.id then throw .groupExists
  let placed ← group.placeUnder (← store.parentOf group)
  return (placed, { store with groups := store.groups.insert placed.id placed })

/-- A group changed in place, and the store with the change. -/
def modify (store : GroupStore) (id : String) (edit : Group → Group) :
    Except GroupError (Group × GroupStore) := do
  let edited := edit (← store.retrieve id)
  return (edited, { store with groups := store.groups.insert id edited })

/-- A group with new attributes, and the store with the change. -/
def update (store : GroupStore) (amendment : GroupAmendment) :
    Except GroupError (Group × GroupStore) :=
  store.modify amendment.id (·.amend amendment)

/-- Give a group another status, and note who did so and when. -/
def changeStatus (store : GroupStore) (id : String) (status : Status) (moment : Instant)
    (editor : String) : Except GroupError (Group × GroupStore) :=
  store.modify id fun group =>
    { group with status, updatedAt := some moment, updatedBy := some editor }

/-- Whether a group does not come after another in the order of creation. -/
def createdBefore (left right : Group) : Bool :=
  (Instant.compare left.createdAt right.createdAt).then (compare left.id right.id) != .gt

/-- The groups that a window's conditions admit, in the order of creation. -/
def listing (store : GroupStore) (page : PageRequest) : List Group :=
  (store.groups.values.filter page.admits).mergeSort createdBefore

/-- A window on the listing of the groups that its conditions admit. -/
def list (store : GroupStore) (page : PageRequest) : Page Group :=
  page.page (store.listing page)

/-- The ancestors of a group, nearest first, as far as a number of levels goes. -/
def parents (store : GroupStore) (id : String) (level : Nat) : Except GroupError (List Group) := do
  checkLevel level
  let group ← store.retrieve id
  return (group.ancestorIds.take level).filterMap store.groups.find?

/-- Whether a group does not come after another in the order of level and path. -/
def higher (left right : Group) : Bool :=
  (compare left.level right.level).then (compare left.path right.path) != .gt

/-- The descendants of a group, as far as a number of levels goes, by level and path. -/
def children (store : GroupStore) (id : String) (level : Nat) :
    Except GroupError (List Group) := do
  checkLevel level
  let group ← store.retrieve id
  let below := store.groups.values.filter fun other =>
    other.isBelow group && other.level ≤ group.level + level
  return below.mergeSort higher

/-- The store without a group and everything below it.  Members go with their groups. -/
def delete (store : GroupStore) (id : String) : Except GroupError GroupStore := do
  let group ← store.retrieve id
  let kept := (store.groups.erase id).filter fun _ other => !other.isBelow group
  return {
    groups := kept
    members := store.members.filter fun key _ => kept.contains key.1 }

/-- The ids of the members of a kind of a group, in their order. -/
def memberIds (store : GroupStore) (groupId kind : String) : List String :=
  (store.members.find? (groupId, kind)).getD []

/-- Make ids members of a kind of a group; those that are stay where they are. -/
def assign (store : GroupStore) (groupId kind : String) (ids : List String) :
    Except GroupError GroupStore := do
  let _ ← store.retrieve groupId
  let members := ids.foldl (fun members id => insertId id members) (store.memberIds groupId kind)
  return { store with members := store.members.insert (groupId, kind) members }

/-- Take ids away from the members of a kind of a group; other ids are passed over. -/
def unassign (store : GroupStore) (groupId kind : String) (ids : List String) :
    Except GroupError GroupStore := do
  let _ ← store.retrieve groupId
  match store.members.find? (groupId, kind) with
  | none => return store
  | some members =>
    let kept := members.filter fun id => id ∉ ids
    return { store with members := store.members.insert (groupId, kind) kept }

/-- A window on the members of a kind of a group. -/
def listMembers (store : GroupStore) (groupId kind : String) (page : PageRequest) :
    Except GroupError (Page String) := do
  let _ ← store.retrieve groupId
  return page.page (store.memberIds groupId kind)

end GroupStore

end RelationAuth.Groups
