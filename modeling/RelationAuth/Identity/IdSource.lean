import RelationAuth.Action
import RelationAuth.Identity.Error

/-!
# Sources of ids

A source gives one id after the other.  It first follows a list, in which an id can be missing, and
then numbers its ids on.
-/

namespace RelationAuth.Identity

/-- A source of ids with the ids it gave. -/
structure IdSource where
  /-- The next ids; the source fails where one is missing. -/
  listed : List (Option String) := []
  /-- The number of ids that were asked for. -/
  asked : Nat := 0
  deriving DecidableEq, Repr, Inhabited

namespace IdSource

/-- The next id.  The text of an id that is not listed is made from the number of the request. -/
def next (numbered : Nat → String) : Action IdSource IdentityError String := do
  let source ← get
  let asked := source.asked + 1
  match source.listed with
  | [] =>
    set { source with asked }
    return numbered asked
  | given :: rest =>
    set { listed := rest, asked : IdSource }
    match given with
    | some id => return id
    | none => Action.fail (.idGeneration "no entropy")

end IdSource

end RelationAuth.Identity
