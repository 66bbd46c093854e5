import RelationAuth.Policy.Schema
import RelationAuth.Policy.TupleRepository

/-!
# Permission checks

A check asks whether a subject holds a name on an object.  It succeeds through a tuple for the name
or a relation that grants it, through a set that holds such a relation and whose holders include the
subject, or, for permissions, through a parent of the object.  The walk visits each goal once and
follows at most ten steps, so it ends on cyclic data.
-/

namespace RelationAuth.Policy

/-- A question of the walk: whether the subject holds a name on an object. -/
structure Goal where
  namespaceName : String
  objectType : String
  object : String
  name : String
  deriving DecidableEq, Repr, Inhabited

/-- The look-ups that a check makes. -/
structure TupleReader where
  holds : RelationTuple → Except PolicyError Bool
  read : TupleFilter → String → Nat → Except PolicyError TuplePage
  /-- A number of pages that no listing exceeds. -/
  pageBound : Nat

/-- A repository in a state, as it is read. -/
def TupleRepository.reader {σ : Type} (repository : TupleRepository σ) (state : σ) :
    TupleReader where
  holds tuple := repository.holds tuple state
  read filter pageToken limit := repository.read filter pageToken limit state
  pageBound := repository.pageBound state

/-- The number of tuples that a check reads at once. -/
def checkPageSize : Nat := 1000

/-- The number of steps that a check follows from its first goal. -/
def maxCheckSteps : Nat := 10

namespace TupleReader

/-- The rest of a listing from a page token on.  A page that repeats its own token ends it, and the
first argument bounds the number of pages. -/
def readFrom (reader : TupleReader) (filter : TupleFilter) :
    Nat → String → Except PolicyError (List RelationTuple)
  | 0, _ => .ok []
  | pages + 1, pageToken => do
    let page ← reader.read filter pageToken checkPageSize
    if page.nextPageToken = "" ∨ page.nextPageToken = pageToken then return page.tuples
    return page.tuples ++ (← reader.readFrom filter pages page.nextPageToken)

/-- All tuples that a filter admits, page by page. -/
def readAll (reader : TupleReader) (filter : TupleFilter) :
    Except PolicyError (List RelationTuple) :=
  reader.readFrom filter reader.pageBound ""

end TupleReader

namespace Goal

/-- The tuple that gives a subject a relation on what a goal is about. -/
def directTuple (goal : Goal) (subject : Subject) (relation : String) : RelationTuple :=
  { namespaceName := goal.namespaceName
    objectType := goal.objectType
    object := goal.object
    relation
    subjectType := ""
    subject }

/-- The tuples of a relation on the object of a goal.  Without a namespace, all namespaces
count. -/
def holdersFilter (goal : Goal) (relation : String) : TupleFilter :=
  { namespaceName := nonEmpty? goal.namespaceName
    object := some goal.object
    relation := some relation }

/-- The goals that lead to a goal through the sets among some tuples on its object. -/
def throughSets (goal : Goal) (holders : List RelationTuple) : List Goal :=
  holders.filterMap fun holder =>
    match holder.subject with
    | .id _ => none
    | .set holders =>
      some {
        namespaceName := goal.namespaceName
        objectType := holders.namespaceName
        object := holders.object
        name := holders.relation }

/-- The goals that lead to a goal through the parents that some tuples on its object name. -/
def throughParents (goal : Goal) (parentType : String) (parents : List RelationTuple) :
    List Goal :=
  parents.map fun parent =>
    { namespaceName := goal.namespaceName
      objectType := parentType
      object := parent.subject.bareId
      name := goal.name }

end Goal

/-- What a walk has found so far: whether it succeeded, and the goals it has visited. -/
abbrev Walk := Bool × List Goal

/-- Visit goals one after the other until one of them is granted.  What is visited for one is not
visited again for the next. -/
def walkGoals (visit : Goal → List Goal → Except PolicyError Walk) :
    List Goal → List Goal → Except PolicyError Walk
  | [], visited => .ok (false, visited)
  | goal :: rest, visited => do
    let (found, seen) ← visit goal visited
    if found then return (true, seen)
    walkGoals visit rest seen

/-- Expand sources in order into goals, and visit these, until one succeeds. -/
def walkSources {α : Type} (expand : α → Except PolicyError (List Goal))
    (visit : Goal → List Goal → Except PolicyError Walk) :
    List α → List Goal → Except PolicyError Walk
  | [], visited => .ok (false, visited)
  | source :: rest, visited => do
    let goals ← expand source
    let (found, seen) ← walkGoals visit goals visited
    if found then return (true, seen)
    walkSources expand visit rest seen

/-- Whether one of some relations is given to a subject directly. -/
def anyDirect (reader : TupleReader) (subject : Subject) (goal : Goal) :
    List String → Except PolicyError Bool
  | [] => .ok false
  | relation :: rest => do
    if ← reader.holds (goal.directTuple subject relation) then return true
    anyDirect reader subject goal rest

/-- The walk from a goal, within a number of levels and past the goals already visited. -/
def walkFrom (reader : TupleReader) (schema : PermissionSchema) (subject : Subject) :
    Nat → Goal → List Goal → Except PolicyError Walk
  | 0, _, visited => .ok (false, visited)
  | levels + 1, goal, visited => do
    if goal ∈ visited then return (false, visited)
    let relations := schema.grantingRelations goal.objectType goal.name
    if ← anyDirect reader subject goal relations then return (true, goal :: visited)
    let (found, seen) ← walkSources
      (fun relation => do return goal.throughSets (← reader.readAll (goal.holdersFilter relation)))
      (walkFrom reader schema subject levels) relations (goal :: visited)
    if found then return (true, seen)
    if !schema.isPermission goal.objectType goal.name then return (false, seen)
    walkSources
      (fun link => do
        return goal.throughParents link.parentType
          (← reader.readAll (goal.holdersFilter link.relation)))
      (walkFrom reader schema subject levels) (schema.parentLinks goal.objectType) seen

/-- Whether a subject is granted a goal, within a number of steps. -/
def check (reader : TupleReader) (schema : PermissionSchema) (subject : Subject) (goal : Goal) :
    Except PolicyError Bool := do
  return (← walkFrom reader schema subject (maxCheckSteps + 1) goal []).1

/-- Whether a subject holds what a goal asks in a tuple store. -/
def TupleStore.check (store : TupleStore) (schema : PermissionSchema) (subject : Subject)
    (goal : Goal) : Except PolicyError Bool :=
  Policy.check (TupleRepository.inMemory.reader store) schema subject goal

end RelationAuth.Policy
