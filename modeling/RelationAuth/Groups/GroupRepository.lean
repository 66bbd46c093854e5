import RelationAuth.Action
import RelationAuth.Groups.GroupStore

/-!
# Group repositories

A repository keeps groups in some state: the group store itself, or a database behind a pool of
connections.  A database repository is described as far as it goes without a connection, as one
whose pool is closed.
-/

namespace RelationAuth.Groups

/-- The operations of a keeper of groups with its state. -/
structure GroupRepository (σ : Type) where
  /-- Place a group in the hierarchy and add it. -/
  save : Group → Action σ GroupError Group
  /-- Give a group new attributes. -/
  update : GroupAmendment → Action σ GroupError Group
  retrieve : String → Action σ GroupError Group
  list : PageRequest → Action σ GroupError (Page Group)
  /-- The ancestors of a group, nearest first, as far as a number of levels goes. -/
  parents : String → Nat → Action σ GroupError (List Group)
  /-- The descendants of a group, as far as a number of levels goes. -/
  children : String → Nat → Action σ GroupError (List Group)
  /-- Give a group a new status, at a time, by somebody. -/
  changeStatus : String → Status → Instant → String → Action σ GroupError Group
  delete : String → Action σ GroupError Unit
  /-- Add members of a kind to a group. -/
  assign : String → String → List String → Action σ GroupError Unit
  /-- Remove members of a kind from a group. -/
  unassign : String → String → List String → Action σ GroupError Unit
  /-- The members of a group, of one kind, in a window. -/
  members : String → String → PageRequest → Action σ GroupError (Page String)

namespace GroupRepository

/-- A change of the group store that answers the changed group. -/
def stepOn (step : GroupStore → Except GroupError (Group × GroupStore)) :
    Action GroupStore GroupError Group := do
  let (group, store) ← Action.query step
  set store
  return group

/-- The repository that keeps groups in memory. -/
def inMemory : GroupRepository GroupStore where
  save group := stepOn fun store => store.save group
  update amendment := stepOn fun store => store.update amendment
  retrieve id := Action.query fun store => store.retrieve id
  list page := Action.query fun store => .ok (store.list page)
  parents id level := Action.query fun store => store.parents id level
  children id level := Action.query fun store => store.children id level
  changeStatus id status moment editor :=
    stepOn fun store => store.changeStatus id status moment editor
  delete id := Action.change fun store => store.delete id
  assign id kind ids := Action.change fun store => store.assign id kind ids
  unassign id kind ids := Action.change fun store => store.unassign id kind ids
  members id kind page := Action.query fun store => store.listMembers id kind page

/-- A listing of ancestors or descendants without a connection. -/
def closedListing {σ : Type} (level : Nat) : Action σ GroupError (List Group) := do
  Action.ofExcept (checkLevel level)
  Action.fail (.database .poolClosed)

/-- A database repository whose pool of connections is closed.  The number of levels of a listing is
checked before a connection is asked for. -/
def closed {σ : Type} : GroupRepository σ where
  save _ := Action.fail (.database .poolClosed)
  update _ := Action.fail (.database .poolClosed)
  retrieve _ := Action.fail (.database .poolClosed)
  list _ := Action.fail (.database .poolClosed)
  parents _ level := closedListing level
  children _ level := closedListing level
  changeStatus _ _ _ _ := Action.fail (.database .poolClosed)
  delete _ := Action.fail (.database .poolClosed)
  assign _ _ _ := Action.fail (.database .poolClosed)
  unassign _ _ _ := Action.fail (.database .poolClosed)
  members _ _ _ := Action.fail (.database .poolClosed)

/-- A repository whose state is a part of a larger one. -/
def onPart {σ τ : Type} (part : τ → σ) (replace : σ → τ → τ) (repository : GroupRepository σ) :
    GroupRepository τ where
  save group := (repository.save group).onPart part replace
  update amendment := (repository.update amendment).onPart part replace
  retrieve id := (repository.retrieve id).onPart part replace
  list page := (repository.list page).onPart part replace
  parents id level := (repository.parents id level).onPart part replace
  children id level := (repository.children id level).onPart part replace
  changeStatus id status moment editor :=
    (repository.changeStatus id status moment editor).onPart part replace
  delete id := (repository.delete id).onPart part replace
  assign id kind ids := (repository.assign id kind ids).onPart part replace
  unassign id kind ids := (repository.unassign id kind ids).onPart part replace
  members id kind page := (repository.members id kind page).onPart part replace

end GroupRepository

end RelationAuth.Groups
