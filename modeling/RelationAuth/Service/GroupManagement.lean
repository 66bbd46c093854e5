import RelationAuth.Number.Bounds
import RelationAuth.Service.Authorization

/-!
# Group management

Every operation on a group asks the policy agent first.  Listings show the groups that the caller
may see: one check for each candidate, all side by side, so that the order in which they end is
open.
-/

namespace RelationAuth.Service

open Groups Identity Policy

/-- The policy that makes a user the administrator of a group. -/
def administratorPolicy (userId groupId : String) : PolicyRequest :=
  { subjectType := userType
    subject := userId
    relation := administratorRelation
    objectType := groupType
    object := groupId }

/-- The policy that binds a group to the group above it. -/
def parentPolicy (parentId groupId : String) : PolicyRequest :=
  { subjectType := groupType
    subject := parentId
    relation := parentGroupRelation
    objectType := groupType
    object := groupId }

/-- The largest limit of a window. -/
def maxPageLimit : Nat := word64Bound - 1

namespace Services

variable {σ : Type} (services : Services σ)

/-- A group for a draft, under a new id and for an owner. -/
def newGroup (now : Instant) (owner : String) (parent : Option String) (draft : GroupDraft) :
    Action σ ServiceError Group := do
  let id ← services.newId.mapFailure .identity
  return {
    id
    name := draft.name
    description := draft.description
    owner
    parent
    metadata := draft.metadata
    createdAt := now }

/-- Give the creator and the parent of a group their policies.  A group that they cannot be given
for is deleted again, since nobody could reach it. -/
def addCreationPolicies (userId : String) (parent : Option String) (groupId : String) :
    Action σ ServiceError Unit := do
  let policies :=
    administratorPolicy userId groupId :: (parent.map fun id => parentPolicy id groupId).toList
  match ← Action.attempt (services.addPolicies policies) with
  | .ok () => return ()
  | .error cause =>
    let _ ← Action.attempt (services.groups.delete groupId)
    Action.fail cause

/-- Create a group, as a root or under a parent that the caller may edit. -/
def createGroup (now : Instant) (token : String) (draft : GroupDraft) :
    Action σ ServiceError Group := do
  (Action.ofExcept draft.validate).mapFailure .group
  let caller ← services.identify now token
  let parent := draft.parent.filter (· ≠ "")
  if let some parentId := parent then
    services.authorize now (groupCheck caller.id editPermission parentId)
  let group ← services.newGroup now caller.id parent draft
  let saved ← (services.groups.save group).mapFailure .group
  services.addCreationPolicies caller.id parent saved.id
  return saved

/-- A group that the caller may see. -/
def viewGroup (now : Instant) (token id : String) : Action σ ServiceError Group := do
  let _ ← services.authorizeOnGroup now token viewPermission id
  (services.groups.retrieve id).mapFailure .group

/-- Give a group that the caller may edit new attributes. -/
def updateGroup (now : Instant) (token : String) (amendment : GroupAmendment) :
    Action σ ServiceError Group := do
  (Action.ofExcept amendment.validate).mapFailure .group
  let caller ← services.authorizeOnGroup now token editPermission amendment.id
  (services.groups.update
    { amendment with updatedAt := some now, updatedBy := some caller.id }).mapFailure .group

/-- Whether a user may see a group.  Any failure but a denial is passed on. -/
def canView (now : Instant) (userId : String) (group : Group) : Action σ ServiceError Bool := do
  match ← Action.attempt (services.authorize now (groupCheck userId viewPermission group.id)) with
  | .ok () => return true
  | .error cause => if cause.kind = .authorization then return false else Action.fail cause

/-- The candidates that a user may see, in the order in which their checks end. -/
def visible (now : Instant) (userId : String) (candidates : List Group) :
    Action σ ServiceError (List Group) := do
  let ordered := services.completion.order candidates
  let answers ← ordered.mapM (services.canView now userId)
  return ((ordered.zip answers).filter (·.2)).map Prod.fst

/-- The groups that the caller may see, in a window. -/
def listGroups (now : Instant) (token : String) (page : PageRequest) :
    Action σ ServiceError (Page Group) := do
  let caller ← services.identify now token
  let candidates ←
    (services.groups.list { page with offset := 0, limit := maxPageLimit }).mapFailure .group
  let shown ← services.visible now caller.id candidates.items
  return page.page (shown.mergeSort GroupStore.createdBefore)

/-- The ancestors of a group that the caller may see, as far as the caller may see them. -/
def listParents (now : Instant) (token id : String) (level : Nat) :
    Action σ ServiceError (List Group) := do
  let caller ← services.authorizeOnGroup now token viewPermission id
  let candidates ← (services.groups.parents id level).mapFailure .group
  services.visible now caller.id candidates

/-- The descendants of a group that the caller may see, as far as the caller may see them. -/
def listChildren (now : Instant) (token id : String) (level : Nat) :
    Action σ ServiceError (List Group) := do
  let caller ← services.authorizeOnGroup now token viewPermission id
  let candidates ← (services.groups.children id level).mapFailure .group
  services.visible now caller.id candidates

/-- Give a group that the caller may edit a status that it does not have yet. -/
def changeStatus (now : Instant) (token id : String) (status : Status) :
    Action σ ServiceError Group := do
  let caller ← services.authorizeOnGroup now token editPermission id
  let group ← (services.groups.retrieve id).mapFailure .group
  if group.status = status then Action.fail .statusAlreadyAssigned
  (services.groups.changeStatus id status now caller.id).mapFailure .group

/-- Enable a group that the caller may edit. -/
def enableGroup (now : Instant) (token id : String) : Action σ ServiceError Group :=
  services.changeStatus now token id .enabled

/-- Disable a group that the caller may edit. -/
def disableGroup (now : Instant) (token id : String) : Action σ ServiceError Group :=
  services.changeStatus now token id .disabled

/-- Remove a group that the caller may delete, with everything below it and all of their
policies. -/
def removeGroup (now : Instant) (token id : String) : Action σ ServiceError Unit := do
  let _ ← services.authorizeOnGroup now token deletePermission id
  let below ← (services.groups.children id maxLevel).mapFailure .group
  (services.groups.delete id).mapFailure .group
  services.deleteEntity groupType id
  below.forM fun group => services.deleteEntity groupType group.id

end Services

end RelationAuth.Service
