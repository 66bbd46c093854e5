import RelationAuth.Proofs.Groups.Runs
import RelationAuth.Proofs.Identity.RandomId
import RelationAuth.Proofs.Service.Mediation

/-!
# The groups that services reach

Whatever the services do to groups, and whatever becomes of policies and keys in between, the stored
groups form a hierarchy under ids that name principals.  Only saving takes a new id in, and every
other operation leaves a group where it is or deletes it with all that is below it.
-/

namespace RelationAuth.Service

open Groups Identity Policy

variable (numbered : Nat → String) (config : TokenConfig) (now : Instant) (token : String)
  (stores : Stores TupleStore)

/-! ### Editing groups -/

/-- The outcomes of giving a group new attributes or another status. -/
inductive EditOutcome : Outcome Group → Prop where
  | stopped (stop : Stop ServiceError) (keys : KeyStore) :
      EditOutcome (.error stop, stores.withKeys keys)
  | edited {id : String} {edit : Group → Group} {group : Group} {groups : GroupStore}
      (stays : ∀ group, (edit group).place = group.place)
      (modified : stores.groups.modify id edit = .ok (group, groups)) :
      EditOutcome (.ok group, stores.withGroups groups)

/-- An edit that keeps the places changes one group, or nothing. -/
theorem modify_outcome (id : String) {edit : Group → Group}
    (stays : ∀ group, (edit group).place = group.place) :
    EditOutcome stores ((((GroupRepository.stepOn fun groups => groups.modify id edit).onPart
      Stores.groups Stores.withGroups).mapFailure ServiceError.group).perform stores) := by
  rw [perform_stepOn]
  rcases modified : stores.groups.modify id edit with cause | ⟨group, groups⟩
  · exact .stopped _ stores.keys
  · exact .edited stays modified

theorem updateGroup_outcome (amendment : GroupAmendment) :
    EditOutcome stores
      (((inMemoryServices numbered config).updateGroup now token amendment).perform stores) := by
  have authorization := authorizeOnGroup_outcome numbered config now token stores editPermission
    amendment.id
  rw [Services.updateGroup, Action.perform_bind, Action.perform_mapFailure,
    Action.perform_ofExcept]
  rcases amendment.validate with cause | _
  · exact .stopped _ stores.keys
  simp only [mapError_ok, Action.perform_bind]
  generalize ((inMemoryServices numbered config).authorizeOnGroup now token editPermission
    amendment.id).perform stores = first at authorization ⊢
  cases authorization with
  | stopped stop keys => exact .stopped stop keys
  | authorized parsed allowed => exact modify_outcome stores _ fun _ => rfl

theorem perform_retrieve (id : String) :
    (((inMemoryServices numbered config).groups.retrieve id).mapFailure ServiceError.group).perform
        stores =
      ((stores.groups.retrieve id).mapError (fun cause => .failure (.group cause)), stores) := by
  simp only [inMemoryServices, servicesOver, GroupRepository.onPart, GroupRepository.inMemory,
    Action.perform_mapFailure, Action.perform_onPart, Action.perform_query]
  cases stores.groups.retrieve id <;> rfl

theorem changeStatus_outcome (id : String) (status : Status) :
    EditOutcome stores
      (((inMemoryServices numbered config).changeStatus now token id status).perform stores) := by
  have authorization := authorizeOnGroup_outcome numbered config now token stores editPermission id
  rw [Services.changeStatus, Action.perform_bind]
  generalize ((inMemoryServices numbered config).authorizeOnGroup now token editPermission
    id).perform stores = first at authorization ⊢
  cases authorization with
  | stopped stop keys => exact .stopped stop keys
  | authorized parsed allowed =>
    simp only [Action.perform_bind, perform_retrieve]
    rcases stores.groups.retrieve id with cause | group
    · exact .stopped _ stores.keys
    simp only [mapError_ok]
    split
    · exact .stopped _ stores.keys
    · exact modify_outcome stores _ fun _ => rfl

/-! ### The invariant -/

/-- Whether the groups form a hierarchy under ids that name principals, and the ids to come name
principals too. -/
structure WellGrouped (numbered : Nat → String) (groups : GroupStore) (ids : IdSource) : Prop where
  hierarchy : groups.Hierarchy
  named : ∀ id group, groups.groups.find? id = some group → PrincipalId id
  principals : ∀ position id, ids.given numbered position = some id → PrincipalId id

namespace WellGrouped

variable {numbered : Nat → String} {config : TokenConfig} {now : Instant} {token : String}
  {groups after : GroupStore} {ids : IdSource} {stores : Stores TupleStore}

theorem rest (wellGrouped : WellGrouped numbered groups ids) :
    WellGrouped numbered groups ids.rest where
  hierarchy := wellGrouped.hierarchy
  named := wellGrouped.named
  principals position id given :=
    wellGrouped.principals (position + 1) id (IdSource.given_rest ▸ given)

theorem save {group placed : Group} (wellGrouped : WellGrouped numbered groups ids)
    (principal : PrincipalId group.id) (saved : groups.save group = .ok (placed, after)) :
    WellGrouped numbered after ids where
  hierarchy := wellGrouped.hierarchy.save saved
  named id other found := by
    rw [GroupStore.find?_save saved] at found
    split at found
    · next own => exact own ▸ principal
    · exact wellGrouped.named id other found
  principals := wellGrouped.principals

theorem delete {id : String} (wellGrouped : WellGrouped numbered groups ids)
    (deleted : groups.delete id = .ok after) : WellGrouped numbered after ids where
  hierarchy := wellGrouped.hierarchy.delete deleted
  named other group found := by
    rcases GroupStore.of_delete deleted with ⟨_, _, remains⟩
    exact wellGrouped.named other group ((remains other group).mp found).1
  principals := wellGrouped.principals

theorem withoutGroup {id : String} (wellGrouped : WellGrouped numbered groups ids) :
    WellGrouped numbered (withoutGroup groups id) ids := by
  unfold Service.withoutGroup
  split
  · next deleted => exact wellGrouped.delete deleted
  · exact wellGrouped

theorem ofPlaces (wellGrouped : WellGrouped numbered groups ids)
    (same : GroupStore.SamePlaces groups after) : WellGrouped numbered after ids where
  hierarchy := wellGrouped.hierarchy.ofPlaces same
  named id group found := by
    rcases same.exists_before found with ⟨before, stored, _⟩
    exact wellGrouped.named id before stored
  principals := wellGrouped.principals

theorem withMembers (wellGrouped : WellGrouped numbered groups ids)
    (same : after.groups = groups.groups) : WellGrouped numbered after ids :=
  wellGrouped.ofPlaces fun id => by rw [same]

theorem edit {outcome : Outcome Group} (wellGrouped : WellGrouped numbered stores.groups stores.ids)
    (edited : EditOutcome stores outcome) :
    WellGrouped numbered outcome.2.groups outcome.2.ids := by
  cases edited with
  | stopped => exact wellGrouped
  | edited stays modified => exact wellGrouped.ofPlaces (GroupStore.samePlaces_modify modified stays)

theorem createGroup (wellGrouped : WellGrouped numbered stores.groups stores.ids)
    (addressable : stores.policies.Addressable) (draft : GroupDraft) :
    WellGrouped numbered
      (((inMemoryServices numbered config).createGroup now token draft).perform stores).2.groups
      (((inMemoryServices numbered config).createGroup now token draft).perform stores).2.ids := by
  have outcome := createGroup_outcome numbered config now token stores addressable draft
  generalize ((inMemoryServices numbered config).createGroup now token draft).perform stores = result
    at outcome ⊢
  cases outcome with
  | stopped => exact wellGrouped
  | unsaved => exact wellGrouped.rest
  | undone parsed given saved invalid =>
    exact (wellGrouped.rest.save (wellGrouped.principals 0 _ given) saved).withoutGroup
  | created parsed allowed given saved valid =>
    exact wellGrouped.rest.save (wellGrouped.principals 0 _ given) saved

theorem removal (wellGrouped : WellGrouped numbered stores.groups stores.ids)
    (addressable : stores.policies.Addressable) (config : TokenConfig) (now : Instant)
    (token id : String) :
    RemoveOutcome config now token stores id
      (((inMemoryServices numbered config).removeGroup now token id).perform stores) :=
  removeGroup_outcome numbered config now token stores addressable
    (fun other group found =>
      ⟨wellGrouped.hierarchy.keyed other group found, wellGrouped.named other group found⟩) id

theorem removeGroup (wellGrouped : WellGrouped numbered stores.groups stores.ids)
    (addressable : stores.policies.Addressable) (id : String) :
    WellGrouped numbered
      (((inMemoryServices numbered config).removeGroup now token id).perform stores).2.groups
      (((inMemoryServices numbered config).removeGroup now token id).perform stores).2.ids := by
  have outcome := wellGrouped.removal addressable config now token id
  generalize ((inMemoryServices numbered config).removeGroup now token id).perform stores = result
    at outcome ⊢
  cases outcome with
  | stopped => exact wellGrouped
  | removed parsed allowed listed deleted => exact wellGrouped.delete deleted

theorem changeMembers {groupId : String} {rows : Except GroupError GroupStore}
    {tuples : Except PolicyError (List RelationTuple)} {policies : List RelationTuple → TupleStore}
    {outcome : Outcome Unit} (wellGrouped : WellGrouped numbered stores.groups stores.ids)
    (same : ∀ groups, rows = .ok groups → groups.groups = stores.groups.groups)
    (changed : MembersOutcome config now token stores groupId rows tuples policies outcome) :
    WellGrouped numbered outcome.2.groups outcome.2.ids := by
  cases changed with
  | stopped => exact wellGrouped
  | rowsOnly parsed allowed changed invalid => exact wellGrouped.withMembers (same _ changed)
  | changed parsed allowed changed valid => exact wellGrouped.withMembers (same _ changed)

/-- Every operation on groups keeps them well. -/
theorem change (wellGrouped : WellGrouped numbered stores.groups stores.ids)
    (addressable : stores.policies.Addressable) (change : GroupChange) :
    WellGrouped numbered
      ((change.run (inMemoryServices numbered config) now token).perform stores).2.groups
      ((change.run (inMemoryServices numbered config) now token).perform stores).2.ids := by
  rcases change with (draft | id | ⟨groupId, relation, kind, memberIds⟩ |
    ⟨groupId, relation, kind, memberIds⟩) | amendment | id | id
  · rw [GroupChange.run, GroupCall.run, Action.perform_unanswered]
    exact wellGrouped.createGroup addressable draft
  · exact wellGrouped.removeGroup addressable id
  · exact wellGrouped.changeMembers (fun _ assigned => (GroupStore.of_assign assigned).2)
      (assign_outcome numbered config now token stores addressable groupId relation kind memberIds)
  · exact wellGrouped.changeMembers (fun _ unassigned => (GroupStore.of_unassign unassigned).2)
      (unassign_outcome numbered config now token stores groupId relation kind memberIds)
  · rw [GroupChange.run, Action.perform_unanswered]
    exact wellGrouped.edit (updateGroup_outcome numbered config now token stores amendment)
  · rw [GroupChange.run, Action.perform_unanswered]
    exact wellGrouped.edit (changeStatus_outcome numbered config now token stores id .enabled)
  · rw [GroupChange.run, Action.perform_unanswered]
    exact wellGrouped.edit (changeStatus_outcome numbered config now token stores id .disabled)

end WellGrouped

/-! ### Runs -/

/-- The stores that services reach from stores without groups by any operations on groups.  In
between, anything may become of policies and keys, and ids may be taken for keys. -/
inductive Grown (numbered : Nat → String) (config : TokenConfig) : Stores TupleStore → Prop where
  | start {policies : TupleStore} {keys : KeyStore} {ids : IdSource}
      (principals : ∀ position id, ids.given numbered position = some id → PrincipalId id) :
      Grown numbered config { policies, keys, groups := GroupStore.empty, ids }
  | change {stores : Stores TupleStore} (before : Grown numbered config stores)
      (addressable : stores.policies.Addressable) (now : Instant) (token : String)
      (change : GroupChange) :
      Grown numbered config
        ((change.run (inMemoryServices numbered config) now token).perform stores).2
  | others {stores : Stores TupleStore} (before : Grown numbered config stores)
      (policies : TupleStore) (keys : KeyStore) (ids : IdSource)
      (principals : ∀ position id, ids.given numbered position = some id → PrincipalId id) :
      Grown numbered config { stores with policies, keys, ids }

/-- Whatever grown stores went through, their groups are well. -/
theorem Grown.wellGrouped {numbered : Nat → String} {config : TokenConfig}
    {stores : Stores TupleStore} (grown : Grown numbered config stores) :
    WellGrouped numbered stores.groups stores.ids := by
  induction grown with
  | start principals =>
    refine ⟨GroupStore.hierarchy_empty, ?_, principals⟩
    intro id group found
    simp [GroupStore.empty] at found
  | change before addressable now token change ih => exact ih.change addressable change
  | others before policies keys ids principals ih => exact ⟨ih.hierarchy, ih.named, principals⟩

theorem principalId_ofNumber (number : Nat) : PrincipalId (RandomId.ofNumber number) :=
  ⟨RandomId.ofNumber_ne_empty number,
    Subject.parse_of_no_colon (RandomId.colon_not_mem_ofNumber number)⟩

theorem Grown.random {config : TokenConfig} {policies : TupleStore} {keys : KeyStore}
    {asked : Nat} :
    Grown RandomId.ofNumber config
      { policies, keys, groups := GroupStore.empty, ids := { asked } } := by
  refine .start fun position id given => ?_
  obtain rfl : RandomId.ofNumber (asked + position + 1) = id := by
    simpa [IdSource.given] using given
  exact principalId_ofNumber _

/-- The stores of ordinary runs are among those that services reach. -/
theorem Reached.grown {numbered : Nat → String} {config : TokenConfig} {stores : Stores TupleStore}
    (reached : Reached numbered config stores) : Grown numbered config stores := by
  induction reached with
  | start reliable =>
    refine .start fun position id given => ⟨reliable.nonempty position id given, ?_⟩
    exact Subject.parse_of_no_colon (reliable.unmarked position id given).2.1
  | call before now token _ call _ _ ih => exact ih.change before.mirrored.2 now token (.shape call)

end RelationAuth.Service
