import RelationAuth.Failure

/-!
# Causes of failure of group stores
-/

namespace RelationAuth.Groups

/-- The deepest level of the hierarchy, and the longest listing of ancestors or descendants. -/
def maxLevel : Nat := 5

/-- Why groups are refused, or their store fails. -/
inductive GroupError where
  | notFound
  | parentNotFound
  | groupExists
  /-- Some fields of a group are too short or too long. -/
  | validation (fields : List String)
  | invalidStatus (text : String)
  | invalidLevel (level : Nat)
  | tooDeep (limit : Nat)
  | database (fault : StorageFault)
  deriving DecidableEq, Repr, Inhabited

namespace GroupError

/-- The kind of failure that a cause is. -/
def kind : GroupError → FailureKind
  | notFound | parentNotFound => .notFound
  | groupExists => .conflict
  | validation _ | invalidStatus _ | invalidLevel _ | tooDeep _ => .validation
  | database _ => .backend

/-- The description of a group error.  The order in which faulty fields are told is open. -/
def message : GroupError → Option String
  | notFound => some "group not found"
  | parentNotFound => some "parent group not found"
  | groupExists => some "group already exists"
  | validation _ => none
  | invalidStatus text => some ("invalid group status: " ++ text)
  | invalidLevel level =>
    some ("hierarchy level must be between 1 and " ++ toString maxLevel ++ ", got " ++
      toString level)
  | tooDeep limit => some ("group hierarchy would exceed " ++ toString limit ++ " levels")
  | database fault => fault.message.map ("Database error: " ++ ·)

/-- What led to a cause, in words. -/
def causes : GroupError → List (Option String)
  | validation _ => [none]
  | database fault => [fault.message]
  | _ => []

instance : Failure GroupError where
  kind := kind
  message := message
  causes := causes

end GroupError

end RelationAuth.Groups
