import RelationAuth.Policy.Vocabulary
import RelationAuth.Service.Authentication

/-!
# Authorization

Policies are checked, added, deleted and listed through the policy agent.  The members of a group
are kept twice: as rows of the group store, for listings, and as policies, for checks.
-/

namespace RelationAuth.Service

open Groups Identity Policy

/-- A request whether a user holds a permission on a group. -/
def groupCheck (userId permission groupId : String) : PolicyRequest :=
  { subjectType := userType
    subject := userId
    permission
    objectType := groupType
    object := groupId }

/-- The policy that makes a member of a kind belong to a group.  A thing or a channel points to its
group, a group to the group above it; a user holds the given relation on the group, and a member of
any other kind may see it. -/
def membershipPolicy (groupId relation kind memberId : String) : PolicyRequest :=
  if kind = thingsKind ∨ kind = channelsKind then
    { subjectType := groupType
      subject := groupId
      relation := groupRelation
      objectType := if kind = thingsKind then thingType else channelType
      object := memberId }
  else if kind = groupsKind then
    { subjectType := groupType
      subject := groupId
      relation := parentGroupRelation
      objectType := groupType
      object := memberId }
  else if kind = usersKind then
    { subjectType := userType
      subject := memberId
      relation := if relation = "" then memberRelation else relation
      objectType := groupType
      object := groupId }
  else
    { subject := memberId
      relation := viewerRelation
      objectType := groupType
      object := groupId }

/-- The id that a listing shows of a tuple: its object, or its subject without what qualifies it. -/
def shownId : Direction → RelationTuple → String
  | .objects, tuple => tuple.object
  | .subjects, tuple => tuple.subject.bareId

/-- A page of ids, for a page of tuples. -/
def idsPage (direction : Direction) (page : TuplePage) : PolicyPage :=
  { policies := page.tuples.map (shownId direction), nextPageToken := page.nextPageToken }

/-- All tuples of a listing on one page. -/
def wholePage (tuples : List RelationTuple) : TuplePage :=
  { tuples, nextPageToken := "" }

namespace Services

variable {σ : Type} (services : Services σ)

/-- A request with the principal of a token in the place of the token, where the subject is one. -/
def resolveSubject (now : Instant) (request : PolicyRequest) :
    Action σ ServiceError PolicyRequest := do
  if request.subjectKind = tokenKind then
    let principal ← services.identify now request.subject
    return { request with
      subject := principal.id
      subjectKind := ""
      subjectType := if request.subjectType = "" then userType else request.subjectType }
  else return request

/-- Succeeds if the subject of a request holds what the request asks. -/
def authorize (now : Instant) (request : PolicyRequest) : Action σ ServiceError Unit := do
  let resolved ← services.resolveSubject now request
  (services.agent.check resolved).mapFailure ServiceError.ofPolicy

/-- The caller, who must hold a permission on a group. -/
def authorizeOnGroup (now : Instant) (token permission groupId : String) :
    Action σ ServiceError Principal := do
  let caller ← services.identify now token
  services.authorize now (groupCheck caller.id permission groupId)
  return caller

/-- Ensure that a request is granted. -/
def addPolicy (request : PolicyRequest) : Action σ ServiceError Unit :=
  (services.agent.add request).mapFailure ServiceError.ofPolicy

/-- Ensure that all of some requests are granted. -/
def addPolicies (requests : List PolicyRequest) : Action σ ServiceError Unit :=
  (services.agent.addMany requests).mapFailure ServiceError.ofPolicy

/-- Delete the tuple that a request describes. -/
def deletePolicy (request : PolicyRequest) : Action σ ServiceError Unit :=
  (services.agent.remove request).mapFailure ServiceError.ofPolicy

/-- Delete the tuples that some requests describe. -/
def deletePolicies (requests : List PolicyRequest) : Action σ ServiceError Unit :=
  (services.agent.removeMany requests).mapFailure ServiceError.ofPolicy

/-- All tuples of a listing in a direction. -/
def listedTuples (direction : Direction) (request : PolicyRequest) :
    Action σ ServiceError (List RelationTuple) :=
  (services.agent.all direction request).mapFailure ServiceError.ofPolicy

/-- Delete the tuples that name an entity: as subject, as object, or as the object of a subject
set. -/
def deleteEntity (entityType id : String) : Action σ ServiceError Unit := do
  let asSubject : PolicyRequest := { subjectType := entityType, subject := id }
  let held ← services.listedTuples .objects asSubject
  let onIt ← services.listedTuples .subjects { objectType := entityType, object := id }
  let throughSets ← subjectSetRelations.mapM fun relation =>
    services.listedTuples .objects { asSubject with subjectRelation := relation }
  let tuples := held ++ onIt ++ throughSets.flatten
  if tuples.isEmpty then return ()
  (services.agent.delete tuples).mapFailure ServiceError.ofPolicy

/-- One page of the ids of a listing. -/
def listIds (direction : Direction) (request : PolicyRequest) (pageToken : String) (limit : Nat) :
    Action σ ServiceError PolicyPage := do
  let page ← (services.agent.pageOf direction request pageToken limit).mapFailure
    ServiceError.ofPolicy
  return idsPage direction page

/-- All ids of a listing, on one page. -/
def listAllIds (direction : Direction) (request : PolicyRequest) :
    Action σ ServiceError PolicyPage := do
  return idsPage direction (wholePage (← services.listedTuples direction request))

/-- The number of tuples of a listing. -/
def countListed (direction : Direction) (request : PolicyRequest) : Action σ ServiceError Nat :=
  (services.agent.count direction request).mapFailure ServiceError.ofPolicy

/-- One page of the objects that the subject of a request relates to. -/
def listObjects (request : PolicyRequest) (pageToken : String) (limit : Nat) :
    Action σ ServiceError PolicyPage :=
  services.listIds .objects request pageToken limit

/-- All objects that the subject of a request relates to. -/
def listAllObjects (request : PolicyRequest) : Action σ ServiceError PolicyPage :=
  services.listAllIds .objects request

/-- The number of tuples with the subject of a request. -/
def countObjects (request : PolicyRequest) : Action σ ServiceError Nat :=
  services.countListed .objects request

/-- One page of the subjects that relate to the object of a request. -/
def listSubjects (request : PolicyRequest) (pageToken : String) (limit : Nat) :
    Action σ ServiceError PolicyPage :=
  services.listIds .subjects request pageToken limit

/-- All subjects that relate to the object of a request. -/
def listAllSubjects (request : PolicyRequest) : Action σ ServiceError PolicyPage :=
  services.listAllIds .subjects request

/-- The number of tuples with the object of a request. -/
def countSubjects (request : PolicyRequest) : Action σ ServiceError Nat :=
  services.countListed .subjects request

/-- Make members of a kind belong to a group that the caller may edit. -/
def assign (now : Instant) (token groupId relation kind : String) (memberIds : List String) :
    Action σ ServiceError Unit := do
  let _ ← services.authorizeOnGroup now token editPermission groupId
  (services.groups.assign groupId kind memberIds).mapFailure .group
  services.addPolicies (memberIds.map (membershipPolicy groupId relation kind))

/-- Remove members of a kind from a group that the caller may edit. -/
def unassign (now : Instant) (token groupId relation kind : String) (memberIds : List String) :
    Action σ ServiceError Unit := do
  let _ ← services.authorizeOnGroup now token editPermission groupId
  (services.groups.unassign groupId kind memberIds).mapFailure .group
  services.deletePolicies (memberIds.map (membershipPolicy groupId relation kind))

/-- The members of a kind of a group that the caller may see, in a window. -/
def members (now : Instant) (token groupId kind : String) (page : PageRequest) :
    Action σ ServiceError (Page String) := do
  let _ ← services.authorizeOnGroup now token viewPermission groupId
  (services.groups.members groupId kind page).mapFailure .group

end Services

end RelationAuth.Service
