import RelationAuth.Proofs.Groups.Hierarchy
import RelationAuth.Proofs.Service.Effects

/-!
# What removing a group does

Removing a group deletes it with everything below it, and sweeps the policies of each of these groups
in turn: the tuples that name it as a subject, as an object, or as the object of a subject set.
-/

namespace RelationAuth.Policy

/-- The tuples that name an entity, as its removal lists them. -/
def TupleStore.naming (store : TupleStore) (entityType id : String) : List RelationTuple :=
  store.matching { subjectType := some entityType, subject := some (.id id) } ++
    store.matching { objectType := some entityType, object := some id } ++
    subjectSetRelations.flatMap fun relation =>
      store.matching {
        subject := some (.set { namespaceName := entityType, object := id, relation }) }

/-- What names an entity is what has it as subject, as object, or as the holder of a known set. -/
theorem TupleStore.mem_naming_iff {store : TupleStore} {entityType id : String}
    {tuple : RelationTuple} :
    tuple ∈ store.naming entityType id ↔
      tuple ∈ store.tuples ∧
        (tuple.subjectType = entityType ∧ tuple.subject = .id id ∨
          tuple.objectType = entityType ∧ tuple.object = id ∨
          ∃ relation ∈ subjectSetRelations,
            tuple.subject = .set { namespaceName := entityType, object := id, relation }) := by
  simp only [naming, List.mem_append, List.mem_flatMap, mem_matching_iff, TupleFilter.admitsTuple,
    TupleFilter.admits_none, TupleFilter.admits_some_iff, Bool.and_eq_true, true_and, and_true]
  constructor
  · rintro ((⟨stored, named⟩ | ⟨stored, named⟩) | ⟨relation, among, stored, named⟩)
    · exact ⟨stored, Or.inl named⟩
    · exact ⟨stored, Or.inr (Or.inl named)⟩
    · exact ⟨stored, Or.inr (Or.inr ⟨relation, among, named⟩)⟩
  · rintro ⟨stored, named | named | ⟨relation, among, named⟩⟩
    · exact Or.inl (Or.inl ⟨stored, named⟩)
    · exact Or.inl (Or.inr ⟨stored, named⟩)
    · exact Or.inr ⟨relation, among, stored, named⟩

/-- The policies after some entities of a type are swept out, one after the other. -/
def TupleStore.sweep (store : TupleStore) (entityType : String) (ids : List String) : TupleStore :=
  ids.foldl (fun store id => store.delete (store.naming entityType id)) store

namespace TupleStore

variable {store : TupleStore} {entityType : String} {ids : List String}

theorem tuples_sweep_sublist : (store.sweep entityType ids).tuples.Sublist store.tuples := by
  induction ids generalizing store with
  | nil => exact List.Sublist.refl _
  | cons id rest ih => exact List.Sublist.trans ih tuples_delete_sublist

/-- Sweeping leaves the keys of principals that name none of the entities. -/
theorem stores_sweep_of_unnamed {key : TupleKey} {name : String} (principal : key.subject = .id name)
    (otherObject : key.object ∉ ids) (otherSubject : name ∉ ids) (stored : store.Stores key) :
    (store.sweep entityType ids).Stores key := by
  induction ids generalizing store with
  | nil => exact stored
  | cons id rest ih =>
    rw [List.mem_cons, not_or] at otherObject otherSubject
    refine ih otherObject.2 otherSubject.2 (stores_delete.mpr ⟨stored, ?_⟩)
    rintro other mem rfl
    rcases (mem_naming_iff.mp mem).2 with ⟨_, subject⟩ | ⟨_, object⟩ | ⟨relation, _, subject⟩
    · exact otherSubject.1 (Subject.id.inj (principal.symm.trans subject))
    · exact otherObject.1 object
    · exact absurd (principal.symm.trans subject) (by simp)

end TupleStore

namespace TupleFilter

variable {entityType id : String}

theorem objectsOf_entity (typed : entityType ≠ "") (named : id ≠ "")
    (plain : Subject.parse id = .id id) :
    objectsOf { subjectType := entityType, subject := id } =
      .ok { subjectType := some entityType, subject := some (.id id) } := by
  simp [objectsOf, PolicyRequest.subjectRef, PolicyRequest.relationOrPermission, Subject.isSet,
    nonEmpty?, named, plain, typed]

theorem subjectsOf_entity (typed : entityType ≠ "") (named : id ≠ "") :
    subjectsOf { objectType := entityType, object := id } =
      .ok { objectType := some entityType, object := some id } := by
  simp [subjectsOf, PolicyRequest.relationOrPermission, nonEmpty?, named, typed]

theorem objectsOf_entitySet {relation : String} (named : id ≠ "")
    (plain : Subject.parse id = .id id) (among : relation ∈ subjectSetRelations) :
    objectsOf { subjectType := entityType, subject := id, subjectRelation := relation } =
      .ok { subject := some (.set { namespaceName := entityType, object := id, relation }) } := by
  have given : relation ≠ "" := by
    rintro rfl
    revert among
    decide
  simp [objectsOf, PolicyRequest.subjectRef, PolicyRequest.relationOrPermission, Subject.isSet,
    nonEmpty?, named, plain, given]

end TupleFilter

end RelationAuth.Policy

namespace RelationAuth.Service

open Groups Identity Policy

variable (numbered : Nat → String) (config : TokenConfig) (now : Instant) (token : String)
  (stores : Stores TupleStore)

section Entities

variable (schema : PermissionSchema) (addressable : stores.policies.Addressable)

include addressable

/-- A listing in either direction is that of the policies, for every schema. -/
theorem perform_listedTuples_over (direction : Direction) (request : PolicyRequest) :
    ((servicesOver (LocalAgent.agent TupleRepository.inMemory schema) numbered
        config).listedTuples direction request).perform stores =
      match TupleFilter.selectedBy direction request with
      | .ok filter => (.ok (stores.policies.matching filter), stores)
      | .error cause => (.error (.failure (ServiceError.ofPolicy cause)), stores) := by
  simp only [Services.listedTuples, servicesOver, Action.perform_mapFailure,
    PolicyAgent.perform_all_onPart policies_isPart, Action.perform_onPart,
    LocalAgent.perform_all addressable]
  cases TupleFilter.selectedBy direction request <;> rfl

/-- Deleting an entity with a name of its own deletes the tuples that name it, whatever the
schema. -/
theorem perform_deleteEntity_over {entityType id : String} (typed : entityType ≠ "")
    (named : id ≠ "") (plain : Subject.parse id = .id id) :
    ((servicesOver (LocalAgent.agent TupleRepository.inMemory schema) numbered
        config).deleteEntity entityType id).perform stores =
      (.ok (), stores.withPolicies
        (stores.policies.delete (stores.policies.naming entityType id))) := by
  have held := perform_listedTuples_over numbered config stores schema addressable .objects
    { subjectType := entityType, subject := id }
  rw [TupleFilter.selectedBy, TupleFilter.objectsOf_entity typed named plain] at held
  have onIt := perform_listedTuples_over numbered config stores schema addressable .subjects
    { objectType := entityType, object := id }
  rw [TupleFilter.selectedBy, TupleFilter.subjectsOf_entity typed named] at onIt
  have throughSets : (subjectSetRelations.mapM fun relation =>
      (servicesOver (LocalAgent.agent TupleRepository.inMemory schema) numbered
        config).listedTuples .objects
        { subjectType := entityType, subject := id, subjectRelation := relation }).perform stores =
        (.ok (subjectSetRelations.map fun relation => stores.policies.matching
          { subject := some (.set { namespaceName := entityType, object := id, relation }) }),
          stores) := by
    refine Action.perform_mapM_of_answers fun relation among => ?_
    rw [perform_listedTuples_over _ _ _ _ addressable, TupleFilter.selectedBy,
      TupleFilter.objectsOf_entitySet named plain among]
  rw [Services.deleteEntity, Action.perform_bind_ok held, Action.perform_bind_ok onIt,
    Action.perform_bind_ok throughSets, ← List.flatMap_def]
  change (if (stores.policies.naming entityType id).isEmpty then pure () else
    ((servicesOver (LocalAgent.agent TupleRepository.inMemory schema) numbered
      config).agent.delete (stores.policies.naming entityType id)).mapFailure ServiceError.ofPolicy :
    Action _ ServiceError Unit).perform stores = _
  rcases stores.policies.naming entityType id with _ | ⟨first, rest⟩
  · rfl
  · rfl

theorem perform_listedTuples (direction : Direction) (request : PolicyRequest) :
    ((inMemoryServices numbered config).listedTuples direction request).perform stores =
      match TupleFilter.selectedBy direction request with
      | .ok filter => (.ok (stores.policies.matching filter), stores)
      | .error cause => (.error (.failure (ServiceError.ofPolicy cause)), stores) :=
  perform_listedTuples_over numbered config stores .groupsSchema addressable direction request

/-- Deleting an entity deletes what names it, and never fails on a plain id. -/
theorem perform_deleteEntity {entityType id : String} (typed : entityType ≠ "")
    (named : id ≠ "") (plain : Subject.parse id = .id id) :
    ((inMemoryServices numbered config).deleteEntity entityType id).perform stores =
      (.ok (), stores.withPolicies
        (stores.policies.delete (stores.policies.naming entityType id))) :=
  perform_deleteEntity_over numbered config stores .groupsSchema addressable typed named plain

end Entities

theorem perform_deleteEntities (addressable : stores.policies.Addressable) (groups : List Group)
    (named : ∀ group ∈ groups, group.id ≠ "" ∧ Subject.parse group.id = .id group.id) :
    (groups.forM fun group =>
        (inMemoryServices numbered config).deleteEntity groupType group.id).perform stores =
      (.ok ⟨⟩, stores.withPolicies
        (stores.policies.sweep groupType (groups.map (·.id)))) := by
  induction groups generalizing stores with
  | nil => rfl
  | cons first rest ih =>
    rw [List.forall_mem_cons] at named
    have head := perform_deleteEntity numbered config stores addressable (by decide : groupType ≠ "")
      named.1.1 named.1.2
    have fewer : (stores.withPolicies (stores.policies.delete
        (stores.policies.naming groupType first.id))).policies.Addressable := addressable.delete _
    change ((inMemoryServices numbered config).deleteEntity groupType first.id >>= fun _ =>
      rest.forM fun group =>
        (inMemoryServices numbered config).deleteEntity groupType group.id).perform stores = _
    rw [Action.perform_bind_ok head, ih _ fewer named.2]
    rfl

/-- The outcomes of removing a group. -/
inductive RemoveOutcome (id : String) : Outcome Unit → Prop where
  | stopped (stop : Stop ServiceError) (keys : KeyStore) :
      RemoveOutcome id (.error stop, stores.withKeys keys)
  | removed {key : Key} {below : List Group} {groups : GroupStore}
      (parsed : config.tokenizer.parse now token = .ok key)
      (allowed : stores.Allows key.subjectId deletePermission id)
      (listed : stores.groups.children id maxLevel = .ok below)
      (deleted : stores.groups.delete id = .ok groups) :
      RemoveOutcome id (.ok (), (stores.withGroups groups).withPolicies
        (stores.policies.sweep groupType (id :: below.map (·.id))))

theorem perform_children (id : String) (level : Nat) :
    (((inMemoryServices numbered config).groups.children id level).mapFailure
        ServiceError.group).perform stores =
      ((stores.groups.children id level).mapError (fun cause => .failure (.group cause)),
        stores) :=
  perform_groups_query stores fun groups => groups.children id level

theorem perform_delete (id : String) :
    (((inMemoryServices numbered config).groups.delete id).mapFailure ServiceError.group).perform
        stores =
      match stores.groups.delete id with
      | .ok groups => (.ok (), stores.withGroups groups)
      | .error cause => (.error (.failure (.group cause)), stores) :=
  perform_groups_change stores fun groups => groups.delete id

section

variable (addressable : stores.policies.Addressable)
  (named : ∀ other group, stores.groups.groups.find? other = some group →
    group.id = other ∧ other ≠ "" ∧ Subject.parse other = .id other) (id : String)

include addressable named

/-- An authorized removal, where every group is stored under an id of its own that is no set. -/
theorem perform_removeGroup {caller : Principal} {below : List Group} {groups : GroupStore}
    (authorized : ((inMemoryServices numbered config).authorizeOnGroup now token deletePermission
      id).perform stores = (.ok caller, stores))
    (listed : stores.groups.children id maxLevel = .ok below)
    (deleted : stores.groups.delete id = .ok groups) :
    ((inMemoryServices numbered config).removeGroup now token id).perform stores =
      (.ok (), (stores.withGroups groups).withPolicies
        (stores.policies.sweep groupType (id :: below.map (·.id)))) := by
  rcases GroupStore.of_delete deleted with ⟨target, found, _⟩
  rcases GroupStore.of_children listed with ⟨_, _, members⟩
  have belowNamed : ∀ group ∈ below, group.id ≠ "" ∧ Subject.parse group.id = .id group.id := by
    intro group mem
    rcases (members group).mp mem with ⟨⟨other, stored⟩, _⟩
    rcases named other group stored with ⟨rfl, plain⟩
    exact plain
  have listing := perform_children numbered config stores id maxLevel
  have deletion := perform_delete numbered config stores id
  have head := perform_deleteEntity numbered config (stores.withGroups groups) addressable
    (by decide : groupType ≠ "") (named id target found).2.1 (named id target found).2.2
  rw [listed] at listing
  rw [deleted] at deletion
  rw [Services.removeGroup, Action.perform_bind_ok authorized, Action.perform_bind_ok listing,
    Action.perform_bind_ok deletion, Action.perform_bind_ok head,
    perform_deleteEntities numbered config _ (addressable.delete _) below belowNamed]
  rfl

/-- A removal stops before any change, or sweeps the policies of the group and of those below it and
then deletes them. -/
theorem removeGroup_outcome :
    RemoveOutcome config now token stores id
      (((inMemoryServices numbered config).removeGroup now token id).perform stores) := by
  have authorization := authorizeOnGroup_outcome numbered config now token stores deletePermission
    id
  generalize outcome : ((inMemoryServices numbered config).authorizeOnGroup now token
    deletePermission id).perform stores = first at authorization
  cases authorization with
  | stopped stop keys =>
    rw [Services.removeGroup, Action.perform_bind, outcome]
    exact .stopped stop keys
  | authorized parsed allowed =>
    have listing := perform_children numbered config stores id maxLevel
    have deletion := perform_delete numbered config stores id
    rcases listed : stores.groups.children id maxLevel with cause | below
    · rw [listed] at listing
      rw [Services.removeGroup, Action.perform_bind_ok outcome, Action.perform_bind, listing]
      exact .stopped _ stores.keys
    rcases deleted : stores.groups.delete id with cause | groups
    · rw [listed] at listing
      rw [deleted] at deletion
      rw [Services.removeGroup, Action.perform_bind_ok outcome, Action.perform_bind_ok listing,
        Action.perform_bind, deletion]
      exact .stopped _ stores.keys
    · rw [perform_removeGroup numbered config now token stores addressable named id outcome listed
        deleted]
      exact .removed parsed allowed listed deleted

end

end RelationAuth.Service
