import RelationAuth.Proofs.Identity.IdSource
import RelationAuth.Proofs.Policy.Agent
import RelationAuth.Proofs.Policy.LocalAgent
import RelationAuth.Service.Stores

/-!
# What the operations on groups do

Every operation on the groups in memory begins by identifying its caller and asking whether the
policies allow it.  Up to there it changes nothing, except that an expired API key is removed.  For
each operation an inductive predicate lists its outcomes, with what is known of the stores before
and after.
-/

namespace RelationAuth.Service

open Groups Identity Policy

/-- What an operation answers, and the stores that it leaves. -/
abbrev Outcome (α : Type) :=
  Except (Stop ServiceError) α × Stores TupleStore

variable (numbered : Nat → String) (config : TokenConfig) (now : Instant) (token : String)
  (stores : Stores TupleStore)

/-- Whether the policies allow a user something on a group. -/
def Stores.Allows (stores : Stores TupleStore) (user permission groupId : String) : Prop :=
  ((LocalAgent.inMemory.check (groupCheck user permission groupId)).perform stores.policies).1 =
    .ok ()

/-- The outcomes of identifying the caller of an operation. -/
inductive IdentifyOutcome : Outcome Principal → Prop where
  | stopped (stop : Stop ServiceError) (keys : KeyStore) :
      IdentifyOutcome (.error stop, stores.withKeys keys)
  | identified {key : Key} (parsed : config.tokenizer.parse now token = .ok key) :
      IdentifyOutcome (.ok key.principal, stores)

/-- The outcomes of authorizing the caller of an operation. -/
inductive AuthorizeOutcome (permission groupId : String) : Outcome Principal → Prop where
  | stopped (stop : Stop ServiceError) (keys : KeyStore) :
      AuthorizeOutcome permission groupId (.error stop, stores.withKeys keys)
  | authorized {key : Key} (parsed : config.tokenizer.parse now token = .ok key)
      (allowed : stores.Allows key.subjectId permission groupId) :
      AuthorizeOutcome permission groupId (.ok key.principal, stores)

/-- The outcomes of changing the members of a group, given what becomes of its rows, the tuples of
its policies, and what becomes of all policies by them. -/
inductive MembersOutcome (groupId : String) (rows : Except GroupError GroupStore)
    (tuples : Except PolicyError (List RelationTuple))
    (policies : List RelationTuple → TupleStore) : Outcome Unit → Prop where
  | stopped (stop : Stop ServiceError) (keys : KeyStore) :
      MembersOutcome groupId rows tuples policies (.error stop, stores.withKeys keys)
  /-- The rows are changed although a policy cannot be described. -/
  | rowsOnly {key : Key} {groups : GroupStore} {cause : PolicyError}
      (parsed : config.tokenizer.parse now token = .ok key)
      (allowed : stores.Allows key.subjectId editPermission groupId) (changed : rows = .ok groups)
      (invalid : tuples = .error cause) :
      MembersOutcome groupId rows tuples policies
        (.error (.failure (ServiceError.ofPolicy cause)), stores.withGroups groups)
  | changed {key : Key} {groups : GroupStore} {described : List RelationTuple}
      (parsed : config.tokenizer.parse now token = .ok key)
      (allowed : stores.Allows key.subjectId editPermission groupId) (changed : rows = .ok groups)
      (valid : tuples = .ok described) :
      MembersOutcome groupId rows tuples policies
        (.ok (), (stores.withGroups groups).withPolicies (policies described))

/-- The principal that a key speaks for: a refresh key for nobody, an API key only as long as it is
stored. -/
def principalOf (keys : KeyStore) (key : Key) : Except ServiceError Principal :=
  match key.keyType with
  | .access | .recovery => .ok key.principal
  | .refresh => .error .unauthenticated
  | .api =>
    if keys.keys.contains (key.subjectId, key.id) then .ok key.principal
    else .error .unauthenticated

theorem principal_of_principalOf {keys : KeyStore} {key : Key} {principal : Principal}
    (speaks : principalOf keys key = .ok principal) : key.principal = principal := by
  unfold principalOf at speaks
  repeat' split at speaks
  all_goals cases speaks <;> rfl

/-- Identifying the caller changes nothing, except that an API key is removed if the token says that
it has expired.  The policy agent has no part in it. -/
theorem perform_identify_over {α : Type} (agent : PolicyAgent α) (stores : Stores α) :
    ((servicesOver agent numbered config).identify now token).perform stores =
      match config.tokenizer.parse now token with
      | .error (.apiKeyExpired keyId owner) =>
        (.error (.failure .apiKeyExpired), stores.withKeys (stores.keys.remove owner keyId))
      | .error cause => (.error (.failure (.identity cause)), stores)
      | .ok key => ((principalOf stores.keys key).mapError .failure, stores) := by
  have reader : (servicesOver agent numbered config).tokenizer = config.tokenizer := rfl
  unfold Services.identify
  rw [reader]
  rcases config.tokenizer.parse now token with cause | key
  · cases cause <;> rfl
  simp only [principalOf]
  rcases kind : key.keyType with _ | _ | _ | _
  · rfl
  · rfl
  · rfl
  · have retrieved : ((servicesOver agent numbered config).keys.retrieve key.subjectId
        key.id).perform stores =
          ((stores.keys.retrieve key.subjectId key.id).mapError .failure, stores) := by
      simp only [servicesOver, KeyRepository.onPart, KeyRepository.inMemory,
        Action.perform_onPart, Action.perform_query]
      rfl
    rcases held : stores.keys.keys.find? (key.subjectId, key.id) with _ | stored <;>
      simp only [KeyStore.retrieve, held] at retrieved <;>
      simp only [Services.identifyApiKey, Action.perform_bind, Action.perform_attempt, retrieved,
        Table.contains, held] <;> rfl

/-- A caller is identified and nothing changes, or the operation fails and at most a key is
removed. -/
theorem identifies_or_fails {α : Type} (agent : PolicyAgent α) (stores : Stores α) :
    (∃ caller, ((servicesOver agent numbered config).identify now token).perform stores =
      (.ok caller, stores)) ∨
      ∃ cause keys, ((servicesOver agent numbered config).identify now token).perform stores =
        (.error (.failure cause), stores.withKeys keys) := by
  rw [perform_identify_over]
  split
  · exact .inr ⟨_, _, rfl⟩
  · exact .inr ⟨_, stores.keys, rfl⟩
  · rename_i key parsed
    rcases principalOf stores.keys key with cause | caller
    · exact .inr ⟨cause, stores.keys, rfl⟩
    · exact .inl ⟨caller, rfl⟩

/-- In memory, only an expired API key is removed by being identified. -/
theorem perform_identify :
    ((inMemoryServices numbered config).identify now token).perform stores =
      match config.tokenizer.parse now token with
      | .error (.apiKeyExpired keyId owner) =>
        (.error (.failure .apiKeyExpired), stores.withKeys (stores.keys.remove owner keyId))
      | .error cause => (.error (.failure (.identity cause)), stores)
      | .ok key => ((principalOf stores.keys key).mapError .failure, stores) :=
  perform_identify_over numbered config now token LocalAgent.inMemory stores

/-- An identification gives the principal of the token, or stops with no more than a key removed. -/
theorem identify_outcome :
    IdentifyOutcome config now token stores
      (((inMemoryServices numbered config).identify now token).perform stores) := by
  rw [perform_identify]
  split
  · exact .stopped _ _
  · exact .stopped _ stores.keys
  · rename_i key parsed
    rcases same : principalOf stores.keys key with cause | principal
    · exact .stopped _ stores.keys
    · rw [← principal_of_principalOf same]
      exact .identified parsed

/-- An access token identifies its principal without a look at the stores. -/
theorem perform_identify_of_access {key : Key}
    (parsed : config.tokenizer.parse now token = .ok key) (access : key.keyType = .access) :
    ((inMemoryServices numbered config).identify now token).perform stores =
      (.ok key.principal, stores) := by
  rw [perform_identify, parsed]
  simp only [principalOf, access]
  rfl

/-- Authorizing a user asks the policy agent, which may change what it keeps. -/
theorem perform_authorize_over {α : Type} (agent : PolicyAgent α) (stores : Stores α)
    (user permission groupId : String) :
    ((servicesOver agent numbered config).authorize now (groupCheck user permission groupId)).perform
        stores =
      (((agent.check (groupCheck user permission groupId)).perform stores.policies).1.mapError
        (Stop.map ServiceError.ofPolicy),
        stores.withPolicies
          ((agent.check (groupCheck user permission groupId)).perform stores.policies).2) := by
  have plain : (groupCheck user permission groupId).subjectKind ≠ tokenKind := by
    simp [groupCheck, tokenKind]
  simp only [Services.authorize, Services.resolveSubject, if_neg plain, pure_bind, servicesOver,
    PolicyAgent.onPart, Action.perform_mapFailure, Action.perform_onPart]

theorem perform_authorize (user permission groupId : String) :
    ((inMemoryServices numbered config).authorize now (groupCheck user permission groupId)).perform
        stores =
      (((LocalAgent.inMemory.check (groupCheck user permission groupId)).perform
        stores.policies).1.mapError (Stop.map ServiceError.ofPolicy), stores) := by
  have asked : LocalAgent.inMemory.check (groupCheck user permission groupId) =
      Action.query (LocalAgent.answer TupleRepository.inMemory .groupsSchema
        (groupCheck user permission groupId)) := rfl
  rw [inMemoryServices, perform_authorize_over, asked, Action.perform_query]
  rfl

/-- An authorization on a group gives the caller, who is allowed what is asked, or stops. -/
theorem authorizeOnGroup_outcome (permission groupId : String) :
    AuthorizeOutcome config now token stores permission groupId
      (((inMemoryServices numbered config).authorizeOnGroup now token permission groupId).perform
        stores) := by
  have identification := identify_outcome numbered config now token stores
  rw [Services.authorizeOnGroup, Action.perform_bind]
  generalize ((inMemoryServices numbered config).identify now token).perform stores = first
    at identification ⊢
  cases identification with
  | stopped stop keys => exact .stopped stop keys
  | @identified key parsed =>
    simp only [Action.perform_bind, perform_authorize]
    rcases answer : ((LocalAgent.inMemory.check (groupCheck key.principal.id permission
        groupId)).perform stores.policies).1 with stop | _
    · exact .stopped _ stores.keys
    · exact .authorized parsed answer

/-- An operation that a caller may do goes on with the caller, and any other one stops with what the
check says. -/
theorem perform_authorizeOnGroup {caller : Principal}
    (identified : ((inMemoryServices numbered config).identify now token).perform stores =
      (.ok caller, stores)) (permission groupId : String) :
    ((inMemoryServices numbered config).authorizeOnGroup now token permission groupId).perform
        stores =
      ((((LocalAgent.inMemory.check (groupCheck caller.id permission groupId)).perform
        stores.policies).1.mapError (Stop.map ServiceError.ofPolicy)).map fun _ => caller,
        stores) := by
  rw [Services.authorizeOnGroup, Action.perform_bind_ok identified, Action.perform_bind,
    perform_authorize]
  rcases ((LocalAgent.inMemory.check (groupCheck caller.id permission groupId)).perform
    stores.policies).1 with stop | _ <;> rfl

/-- An access token of somebody who is allowed what is asked passes the authorization. -/
theorem perform_authorizeOnGroup_of_access {key : Key} {permission groupId : String}
    (parsed : config.tokenizer.parse now token = .ok key) (access : key.keyType = .access)
    (allowed : stores.Allows key.subjectId permission groupId) :
    ((inMemoryServices numbered config).authorizeOnGroup now token permission groupId).perform
        stores = (.ok key.principal, stores) := by
  have identified := perform_identify_of_access numbered config now token stores parsed access
  have answer : ((LocalAgent.inMemory.check (groupCheck key.principal.id permission
      groupId)).perform stores.policies).1 = .ok () := allowed
  rw [perform_authorizeOnGroup numbered config now token stores identified, answer]
  rfl

theorem policies_isPart {α : Type} :
    Action.IsPart (Stores.policies : Stores α → α) Stores.withPolicies :=
  ⟨fun _ _ => rfl, fun _ => rfl, fun _ _ _ => rfl⟩

/-- Adding policies refuses them as a whole, or writes what is pending of them. -/
theorem perform_addPolicies (addressable : stores.policies.Addressable)
    (requests : List PolicyRequest) :
    ((inMemoryServices numbered config).addPolicies requests).perform stores =
      match requests.mapM RelationTuple.ofRequest with
      | .ok tuples => (.ok (), stores.withPolicies (stores.policies.write
          (LocalAgent.pending stores.policies .groupsSchema tuples)))
      | .error cause => (.error (.failure (ServiceError.ofPolicy cause)), stores) := by
  simp only [Services.addPolicies, inMemoryServices, servicesOver, Action.perform_mapFailure,
    PolicyAgent.addMany_onPart policies_isPart, Action.perform_onPart, LocalAgent.inMemory,
    LocalAgent.perform_addMany addressable]
  cases requests.mapM RelationTuple.ofRequest <;> rfl

/-- Policies are deleted at once, or not at all if one of the requests describes no tuple. -/
theorem perform_deletePolicies (requests : List PolicyRequest) :
    ((inMemoryServices numbered config).deletePolicies requests).perform stores =
      match requests.mapM RelationTuple.ofRequest with
      | .ok tuples => (.ok (), stores.withPolicies (stores.policies.delete tuples))
      | .error cause => (.error (.failure (ServiceError.ofPolicy cause)), stores) := by
  simp only [Services.deletePolicies, inMemoryServices, servicesOver, Action.perform_mapFailure,
    PolicyAgent.removeMany_onPart policies_isPart, Action.perform_onPart, LocalAgent.inMemory,
    LocalAgent.perform_removeMany]
  cases requests.mapM RelationTuple.ofRequest <;> rfl

theorem perform_groups_change (step : GroupStore → Except GroupError GroupStore) :
    (((Action.change step).onPart Stores.groups Stores.withGroups).mapFailure
        ServiceError.group).perform stores =
      match step stores.groups with
      | .ok groups => (.ok (), stores.withGroups groups)
      | .error cause => (.error (.failure (.group cause)), stores) := by
  simp only [Action.perform_mapFailure, Action.perform_onPart, Action.perform_change]
  cases step stores.groups <;> rfl

theorem perform_groups_query {α : Type} (read : GroupStore → Except GroupError α) :
    (((Action.query read).onPart Stores.groups Stores.withGroups).mapFailure
        ServiceError.group).perform stores =
      ((read stores.groups).mapError fun cause => .failure (.group cause), stores) := by
  simp only [Action.perform_mapFailure, Action.perform_onPart, Action.perform_query]
  cases read stores.groups <;> rfl

/-- Changing the rows of a group and then the policies that mirror them. -/
theorem members_outcome (groupId : String) (step : GroupStore → Except GroupError GroupStore)
    {requests : List PolicyRequest} {policies : List RelationTuple → TupleStore}
    {mirror : Action (Stores TupleStore) ServiceError Unit}
    (mirrored : ∀ groups, mirror.perform (stores.withGroups groups) =
      match requests.mapM RelationTuple.ofRequest with
      | .ok tuples => (.ok (), (stores.withGroups groups).withPolicies (policies tuples))
      | .error cause =>
        (.error (.failure (ServiceError.ofPolicy cause)), stores.withGroups groups)) :
    MembersOutcome config now token stores groupId (step stores.groups)
      (requests.mapM RelationTuple.ofRequest) policies
      (((inMemoryServices numbered config).authorizeOnGroup now token editPermission groupId >>=
        fun _ => ((Action.change step).onPart Stores.groups Stores.withGroups).mapFailure
          ServiceError.group >>= fun _ => mirror).perform stores) := by
  have authorization := authorizeOnGroup_outcome numbered config now token stores editPermission
    groupId
  rw [Action.perform_bind]
  generalize ((inMemoryServices numbered config).authorizeOnGroup now token editPermission
    groupId).perform stores = first at authorization ⊢
  cases authorization with
  | stopped stop keys => exact .stopped stop keys
  | authorized parsed allowed =>
    simp only [Action.perform_bind, perform_groups_change]
    rcases changed : step stores.groups with cause | groups
    · exact .stopped _ stores.keys
    · simp only [mirrored]
      rcases valid : requests.mapM RelationTuple.ofRequest with cause | tuples
      · exact .rowsOnly parsed allowed rfl rfl
      · exact .changed parsed allowed rfl rfl

/-- Members are assigned to a group as rows first, and then as policies where these are not granted
yet. -/
theorem assign_outcome (addressable : stores.policies.Addressable)
    (groupId relation kind : String) (memberIds : List String) :
    MembersOutcome config now token stores groupId (stores.groups.assign groupId kind memberIds)
      ((memberIds.map (membershipPolicy groupId relation kind)).mapM RelationTuple.ofRequest)
      (fun tuples => stores.policies.write
        (LocalAgent.pending stores.policies .groupsSchema tuples))
      (((inMemoryServices numbered config).assign now token groupId relation kind
        memberIds).perform stores) := by
  have rows : (inMemoryServices numbered config).groups.assign groupId kind memberIds =
      (Action.change fun groups => groups.assign groupId kind memberIds).onPart Stores.groups
        Stores.withGroups := rfl
  rw [Services.assign, rows]
  refine members_outcome numbered config now token stores groupId
    (fun groups => groups.assign groupId kind memberIds) ?_
  intro groups
  exact perform_addPolicies numbered config (stores.withGroups groups) addressable _

/-- Members are assigned by a caller who may edit the group, if their policies can be described. -/
theorem perform_assign {key : Key} {groupId relation kind : String} {memberIds : List String}
    {groups : GroupStore} {tuples : List RelationTuple} (addressable : stores.policies.Addressable)
    (parsed : config.tokenizer.parse now token = .ok key) (access : key.keyType = .access)
    (allowed : stores.Allows key.subjectId editPermission groupId)
    (assigned : stores.groups.assign groupId kind memberIds = .ok groups)
    (described : (memberIds.map (membershipPolicy groupId relation kind)).mapM
      RelationTuple.ofRequest = .ok tuples) :
    ((inMemoryServices numbered config).assign now token groupId relation kind memberIds).perform
        stores =
      (.ok (), (stores.withGroups groups).withPolicies (stores.policies.write
        (LocalAgent.pending stores.policies .groupsSchema tuples))) := by
  have authorized := perform_authorizeOnGroup_of_access numbered config now token stores parsed
    access allowed
  have rows := perform_groups_change stores fun groups => groups.assign groupId kind memberIds
  simp only [assigned] at rows
  have kept : (stores.withGroups groups).policies.Addressable := addressable
  have mirrored := perform_addPolicies numbered config (stores.withGroups groups) kept
    (memberIds.map (membershipPolicy groupId relation kind))
  rw [described] at mirrored
  exact (Action.perform_bind_ok authorized).trans ((Action.perform_bind_ok rows).trans mirrored)

/-- A removal of members changes their rows and deletes their tuples, or the rows alone if a tuple
cannot be described. -/
theorem unassign_outcome (groupId relation kind : String) (memberIds : List String) :
    MembersOutcome config now token stores groupId (stores.groups.unassign groupId kind memberIds)
      ((memberIds.map (membershipPolicy groupId relation kind)).mapM RelationTuple.ofRequest)
      (fun tuples => stores.policies.delete tuples)
      (((inMemoryServices numbered config).unassign now token groupId relation kind
        memberIds).perform stores) := by
  have rows : (inMemoryServices numbered config).groups.unassign groupId kind memberIds =
      (Action.change fun groups => groups.unassign groupId kind memberIds).onPart Stores.groups
        Stores.withGroups := rfl
  rw [Services.unassign, rows]
  refine members_outcome numbered config now token stores groupId
    (fun groups => groups.unassign groupId kind memberIds) ?_
  intro groups
  exact perform_deletePolicies numbered config (stores.withGroups groups) _

/-! ### Creating groups -/

/-- The group that a draft asks for. -/
def draftedGroup (draft : GroupDraft) (id owner : String) (now : Instant) : Group :=
  { id
    name := draft.name
    description := draft.description
    owner
    parent := draft.parent.filter (· ≠ "")
    metadata := draft.metadata
    createdAt := now }

theorem filter_parent_draftedGroup {draft : GroupDraft} {id owner : String} {now : Instant} :
    (draftedGroup draft id owner now).parent.filter (· ≠ "") = draft.parent.filter (· ≠ "") := by
  simp [draftedGroup]

/-- The policies that come with a group. -/
def creationPolicies (userId : String) (parent : Option String) (groupId : String) :
    List PolicyRequest :=
  administratorPolicy userId groupId :: (parent.map fun id => parentPolicy id groupId).toList

/-- The groups after one is deleted, where that can be done. -/
def withoutGroup (groups : GroupStore) (id : String) : GroupStore :=
  match groups.delete id with
  | .ok kept => kept
  | .error _ => groups

/-- The outcomes of creating a group. -/
inductive CreateOutcome (draft : GroupDraft) : Outcome Group → Prop where
  | stopped (stop : Stop ServiceError) (keys : KeyStore) :
      CreateOutcome draft (.error stop, stores.withKeys keys)
  /-- An id was asked for, but no group was saved under it. -/
  | unsaved (stop : Stop ServiceError) :
      CreateOutcome draft (.error stop, stores.withIds stores.ids.rest)
  /-- The group was saved and then deleted again, since its policies cannot be described. -/
  | undone {key : Key} {id : String} {placed : Group} {groups : GroupStore} {cause : PolicyError}
      (parsed : config.tokenizer.parse now token = .ok key)
      (given : stores.ids.given numbered 0 = some id)
      (saved : stores.groups.save (draftedGroup draft id key.subjectId now) = .ok (placed, groups))
      (invalid : (creationPolicies key.subjectId (draft.parent.filter (· ≠ "")) placed.id).mapM
        RelationTuple.ofRequest = .error cause) :
      CreateOutcome draft (.error (.failure (ServiceError.ofPolicy cause)),
        (stores.withIds stores.ids.rest).withGroups (withoutGroup groups placed.id))
  | created {key : Key} {id : String} {placed : Group} {groups : GroupStore}
      {tuples : List RelationTuple} (parsed : config.tokenizer.parse now token = .ok key)
      (allowed : ∀ parentId, draft.parent.filter (· ≠ "") = some parentId →
        stores.Allows key.subjectId editPermission parentId)
      (given : stores.ids.given numbered 0 = some id)
      (saved : stores.groups.save (draftedGroup draft id key.subjectId now) = .ok (placed, groups))
      (valid : (creationPolicies key.subjectId (draft.parent.filter (· ≠ "")) placed.id).mapM
        RelationTuple.ofRequest = .ok tuples) :
      CreateOutcome draft (.ok placed,
        ((stores.withIds stores.ids.rest).withGroups groups).withPolicies (stores.policies.write
          (LocalAgent.pending stores.policies .groupsSchema tuples)))

/-- A step of the group store that answers the changed group either happens or leaves all as it
is. -/
theorem perform_stepOn {α : Type} (stores : Stores α)
    (step : GroupStore → Except GroupError (Group × GroupStore)) :
    (((GroupRepository.stepOn step).onPart Stores.groups Stores.withGroups).mapFailure
        ServiceError.group).perform stores =
      match step stores.groups with
      | .ok (group, groups) => (.ok group, stores.withGroups groups)
      | .error cause => (.error (.failure (.group cause)), stores) := by
  simp only [GroupRepository.stepOn, Action.perform_mapFailure, Action.perform_onPart,
    Action.perform_bind, Action.perform_query]
  rcases step stores.groups with cause | ⟨changed, groups⟩ <;> rfl

section AnyAgent

variable {α : Type} (agent : PolicyAgent α) (stores : Stores α)

theorem perform_save_over (group : Group) :
    (((servicesOver agent numbered config).groups.save group).mapFailure ServiceError.group).perform
        stores =
      match stores.groups.save group with
      | .ok (placed, groups) => (.ok placed, stores.withGroups groups)
      | .error cause => (.error (.failure (.group cause)), stores) :=
  perform_stepOn stores fun groups => groups.save group

theorem perform_newGroup_over (owner : String) (draft : GroupDraft) :
    ((servicesOver agent numbered config).newGroup now owner (draft.parent.filter (· ≠ ""))
        draft).perform stores =
      (match stores.ids.given numbered 0 with
        | some id => .ok (draftedGroup draft id owner now)
        | none => .error (.failure (.identity (.idGeneration "no entropy"))),
        stores.withIds stores.ids.rest) := by
  simp only [Services.newGroup, servicesOver, Action.perform_bind,
    Action.perform_mapFailure, Action.perform_onPart, IdSource.perform_next]
  rcases stores.ids.given numbered 0 with _ | id <;> rfl

/-- A group stays if its policies are added, and goes again if the agent fails to add them. -/
theorem perform_addCreationPolicies_over (userId : String) (parent : Option String)
    (groupId : String) :
    ((servicesOver agent numbered config).addCreationPolicies userId parent groupId).perform
        stores =
      match (agent.addMany (creationPolicies userId parent groupId)).perform stores.policies with
      | (.ok (), policies) => (.ok (), stores.withPolicies policies)
      | (.error (.failure cause), policies) =>
        (.error (.failure (ServiceError.ofPolicy cause)),
          (stores.withPolicies policies).withGroups (withoutGroup stores.groups groupId))
      | (.error .aborted, policies) => (.error .aborted, stores.withPolicies policies)
      | (.error .unfinished, policies) => (.error .unfinished, stores.withPolicies policies) := by
  have policies : administratorPolicy userId groupId ::
      (parent.map fun id => parentPolicy id groupId).toList =
        creationPolicies userId parent groupId := rfl
  have undoing : (servicesOver agent numbered config).groups.delete groupId =
      (Action.change fun groups => groups.delete groupId).onPart Stores.groups
        Stores.withGroups := rfl
  have adding : (servicesOver agent numbered config).agent =
      agent.onPart Stores.policies Stores.withPolicies := rfl
  simp only [Services.addCreationPolicies, policies, Services.addPolicies, adding,
    PolicyAgent.addMany_onPart policies_isPart, Action.perform_bind, Action.perform_attempt,
    Action.perform_mapFailure, Action.perform_onPart]
  rcases (agent.addMany (creationPolicies userId parent groupId)).perform stores.policies with
    ⟨⟨cause | _ | _⟩ | _, policies⟩
  · simp only [undoing, mapError_error, Stop.map, Action.perform_bind, Action.perform_attempt,
      Action.perform_onPart, Action.perform_change, withoutGroup, Stores.withPolicies]
    rcases stores.groups.delete groupId with fault | kept <;> rfl
  · rfl
  · rfl
  · rfl

end AnyAgent

theorem perform_save (group : Group) :
    (((inMemoryServices numbered config).groups.save group).mapFailure ServiceError.group).perform
        stores =
      match stores.groups.save group with
      | .ok (placed, groups) => (.ok placed, stores.withGroups groups)
      | .error cause => (.error (.failure (.group cause)), stores) :=
  perform_save_over numbered config LocalAgent.inMemory stores group

theorem perform_newGroup (owner : String) (draft : GroupDraft) :
    ((inMemoryServices numbered config).newGroup now owner (draft.parent.filter (· ≠ ""))
        draft).perform stores =
      (match stores.ids.given numbered 0 with
        | some id => .ok (draftedGroup draft id owner now)
        | none => .error (.failure (.identity (.idGeneration "no entropy"))),
        stores.withIds stores.ids.rest) :=
  perform_newGroup_over numbered config now LocalAgent.inMemory stores owner draft

/-- The policies of a new group are written at once, or the group is withdrawn. -/
theorem perform_addCreationPolicies (addressable : stores.policies.Addressable)
    (userId : String) (parent : Option String) (groupId : String) :
    ((inMemoryServices numbered config).addCreationPolicies userId parent groupId).perform stores =
      match (creationPolicies userId parent groupId).mapM RelationTuple.ofRequest with
      | .ok tuples => (.ok (), stores.withPolicies (stores.policies.write
          (LocalAgent.pending stores.policies .groupsSchema tuples)))
      | .error cause => (.error (.failure (ServiceError.ofPolicy cause)),
          stores.withGroups (withoutGroup stores.groups groupId)) := by
  rw [inMemoryServices, perform_addCreationPolicies_over, LocalAgent.inMemory,
    LocalAgent.perform_addMany addressable]
  rcases (creationPolicies userId parent groupId).mapM RelationTuple.ofRequest with
    cause | tuples <;> rfl

/-- What follows an authorized creation: an id is taken, the group saved and its policies
written. -/
theorem placeGroup_outcome (addressable : stores.policies.Addressable) (draft : GroupDraft)
    {key : Key} (parsed : config.tokenizer.parse now token = .ok key)
    (allowed : ∀ parentId, draft.parent.filter (· ≠ "") = some parentId →
      stores.Allows key.subjectId editPermission parentId) :
    CreateOutcome numbered config now token stores draft
      ((do
        let group ← (inMemoryServices numbered config).newGroup now key.principal.id
          (draft.parent.filter (· ≠ "")) draft
        let saved ← ((inMemoryServices numbered config).groups.save group).mapFailure
          ServiceError.group
        (inMemoryServices numbered config).addCreationPolicies key.principal.id
          (draft.parent.filter (· ≠ "")) saved.id
        return saved : Action _ ServiceError Group).perform stores) := by
  rw [Action.perform_bind, perform_newGroup]
  rcases given : stores.ids.given numbered 0 with _ | id
  · exact .unsaved _
  simp only [Action.perform_bind, perform_save]
  rcases saved : (stores.withIds stores.ids.rest).groups.save
    (draftedGroup draft id key.principal.id now) with cause | ⟨placed, groups⟩
  · exact .unsaved _
  have kept : ((stores.withIds stores.ids.rest).withGroups groups).policies.Addressable :=
    addressable
  simp only [perform_addCreationPolicies _ _ _ kept]
  rcases valid : (creationPolicies key.principal.id (draft.parent.filter (· ≠ ""))
    placed.id).mapM RelationTuple.ofRequest with cause | tuples
  · exact .undone parsed given saved valid
  · exact .created parsed allowed given saved valid

/-- A group is created under the next id by a caller who may edit its parent, if it can be saved. -/
theorem perform_createGroup {draft : GroupDraft} {caller : Principal} {id : String} {placed : Group}
    {groups : GroupStore} {tuples : List RelationTuple} (addressable : stores.policies.Addressable)
    (valid : draft.validate = .ok ())
    (identified : ((inMemoryServices numbered config).identify now token).perform stores =
      (.ok caller, stores))
    (allowed : ∀ parentId, draft.parent.filter (· ≠ "") = some parentId →
      stores.Allows caller.id editPermission parentId)
    (given : stores.ids.given numbered 0 = some id)
    (saved : stores.groups.save (draftedGroup draft id caller.id now) = .ok (placed, groups))
    (described : (creationPolicies caller.id (draft.parent.filter (· ≠ "")) placed.id).mapM
      RelationTuple.ofRequest = .ok tuples) :
    ((inMemoryServices numbered config).createGroup now token draft).perform stores =
      (.ok placed, ((stores.withIds stores.ids.rest).withGroups groups).withPolicies
        (stores.policies.write (LocalAgent.pending stores.policies .groupsSchema tuples))) := by
  have validated : ((Action.ofExcept draft.validate).mapFailure ServiceError.group :
      Action (Stores TupleStore) ServiceError Unit).perform stores = (.ok (), stores) := by
    rw [valid]
    rfl
  have fresh := perform_newGroup numbered config now stores caller.id draft
  rw [given] at fresh
  have stored := perform_save numbered config (stores.withIds stores.ids.rest)
    (draftedGroup draft id caller.id now)
  rw [show (stores.withIds stores.ids.rest).groups = stores.groups from rfl, saved] at stored
  have kept : ((stores.withIds stores.ids.rest).withGroups groups).policies.Addressable :=
    addressable
  have written := perform_addCreationPolicies numbered config
    ((stores.withIds stores.ids.rest).withGroups groups) kept caller.id
    (draft.parent.filter (· ≠ "")) placed.id
  rw [described] at written
  rw [Services.createGroup, Action.perform_bind_ok validated, Action.perform_bind_ok identified]
  simp only
  split
  · rename_i parentId named
    have answer : ((LocalAgent.inMemory.check (groupCheck caller.id editPermission
        parentId)).perform stores.policies).1 = .ok () := allowed parentId named
    have granted : ((inMemoryServices numbered config).authorize now
        (groupCheck caller.id editPermission parentId)).perform stores = (.ok (), stores) := by
      rw [perform_authorize, answer]
      rfl
    rw [Action.perform_bind_ok granted, Action.perform_bind_ok fresh,
      Action.perform_bind_ok stored, Action.perform_bind_ok written]
    rfl
  · rw [Action.perform_bind_ok fresh, Action.perform_bind_ok stored,
      Action.perform_bind_ok written]
    rfl

/-- A creation has one of the outcomes, whoever asks for it. -/
theorem createGroup_outcome (addressable : stores.policies.Addressable) (draft : GroupDraft) :
    CreateOutcome numbered config now token stores draft
      (((inMemoryServices numbered config).createGroup now token draft).perform stores) := by
  have identification := identify_outcome numbered config now token stores
  rw [Services.createGroup, Action.perform_bind, Action.perform_mapFailure,
    Action.perform_ofExcept]
  rcases draft.validate with cause | _
  · exact .stopped _ stores.keys
  simp only [mapError_ok, Action.perform_bind]
  generalize ((inMemoryServices numbered config).identify now token).perform stores = first
    at identification ⊢
  cases identification with
  | stopped stop keys => exact .stopped stop keys
  | @identified key parsed =>
    have placing := placeGroup_outcome numbered config now token stores addressable draft parsed
    simp only
    split
    · rename_i parentId named
      rw [Action.perform_bind, perform_authorize]
      rcases answer : ((LocalAgent.inMemory.check (groupCheck key.principal.id editPermission
          parentId)).perform stores.policies).1 with stop | _
      · exact .stopped _ stores.keys
      · refine placing fun other same => ?_
        obtain rfl : other = parentId := Option.some.inj (same.symm.trans named)
        exact answer
    · rename_i none
      exact placing fun other same => (none other same).elim

end RelationAuth.Service
