import RelationAuth.Proofs.Policy.Subject
import RelationAuth.Proofs.Service.Removal

/-!
# Runs of operations on groups

Along every run of operations that create and remove groups and assign and unassign members, the
policies mirror the hierarchy of the stored groups: a group has the tuple that binds it to another
exactly if this is its parent.
-/

namespace RelationAuth

namespace Identity.IdSource

/-- Whether the ids that a source will give are never repeated, never empty, and free of the marks
that paths and subject sets are made with. -/
structure Reliable (numbered : Nat → String) (source : IdSource) : Prop where
  distinct : ∀ earlier later id, source.given numbered earlier = some id →
    source.given numbered later = some id → earlier = later
  nonempty : ∀ position id, source.given numbered position = some id → id ≠ ""
  unmarked : ∀ position id, source.given numbered position = some id →
    '.' ∉ id.toList ∧ ':' ∉ id.toList ∧ '#' ∉ id.toList

theorem Reliable.rest {numbered : Nat → String} {source : IdSource}
    (reliable : source.Reliable numbered) : source.rest.Reliable numbered where
  distinct earlier later id first second := by
    rw [given_rest] at first second
    exact Nat.succ.inj (reliable.distinct _ _ id first second)
  nonempty position id given := reliable.nonempty (position + 1) id (given_rest ▸ given)
  unmarked position id given := reliable.unmarked (position + 1) id (given_rest ▸ given)

end Identity.IdSource

namespace Service

open Groups Identity Policy

/-- Whether an id names a principal: it is not empty, and no text of a set. -/
def PrincipalId (id : String) : Prop :=
  id ≠ "" ∧ Subject.parse id = .id id

/-- The roles that users have in a group. -/
def roles : List String :=
  [administratorRelation, editorRelation, viewerRelation, memberRelation]

/-- An operation on groups. -/
inductive GroupCall where
  | create (draft : GroupDraft)
  | remove (id : String)
  | assign (groupId relation kind : String) (memberIds : List String)
  | unassign (groupId relation kind : String) (memberIds : List String)

/-- What an operation does. -/
def GroupCall.run {σ : Type} (services : Services σ) (now : Instant) (token : String) :
    GroupCall → Action σ ServiceError Unit
  | create draft => do
    let _ ← services.createGroup now token draft
  | remove id => services.removeGroup now token id
  | assign groupId relation kind memberIds =>
    services.assign now token groupId relation kind memberIds
  | unassign groupId relation kind memberIds =>
    services.unassign now token groupId relation kind memberIds

/-- Whether members are things, channels, or users in a role. -/
def OrdinaryMembers (relation kind : String) (memberIds : List String) : Prop :=
  kind = thingsKind ∨ kind = channelsKind ∨
    kind = usersKind ∧ (relation = "" ∨ relation ∈ roles) ∧ ∀ id ∈ memberIds, PrincipalId id

/-- The operations of ordinary runs, in which no group is moved by hand. -/
def GroupCall.Ordinary : GroupCall → Prop
  | create _ => True
  | remove _ => True
  | assign _ relation kind memberIds => OrdinaryMembers relation kind memberIds
  | unassign _ relation kind memberIds => OrdinaryMembers relation kind memberIds

/-- The stores that ordinary runs reach from stores without policies and groups.  Callers are
principals, and the policies stay as many as a memory holds. -/
inductive Reached (numbered : Nat → String) (config : TokenConfig) : Stores TupleStore → Prop where
  | start {keys : KeyStore} {ids : IdSource} (reliable : ids.Reliable numbered) :
      Reached numbered config
        { policies := TupleStore.empty, keys, groups := GroupStore.empty, ids }
  | call {stores : Stores TupleStore} (before : Reached numbered config stores) (now : Instant)
      (token : String)
      (principal : ∀ key, config.tokenizer.parse now token = .ok key → PrincipalId key.subjectId)
      (call : GroupCall) (ordinary : call.Ordinary)
      (addressable : ((call.run (inMemoryServices numbered config) now token).perform
        stores).2.policies.Addressable) :
      Reached numbered config
        ((call.run (inMemoryServices numbered config) now token).perform stores).2

/-- The relations that the tuples of ordinary runs assert. -/
def ordinaryRelations : List String :=
  groupRelation :: parentGroupRelation :: roles

/-- Whether a tuple is of the kind that ordinary runs write. -/
def Ordinary (tuple : RelationTuple) : Prop :=
  tuple.namespaceName = "" ∧ (∃ name, tuple.subject = .id name) ∧
    tuple.relation ∈ ordinaryRelations

/-- The key of the tuple that binds a group to the one above it. -/
def parentKey (child parent : String) : TupleKey :=
  { namespaceName := ""
    object := child
    relation := parentGroupRelation
    subject := .id parent }

/-- Whether the policies mirror the hierarchy of the groups. -/
structure Mirrored (numbered : Nat → String) (stores : Stores TupleStore) : Prop where
  hierarchy : stores.groups.Hierarchy
  named : ∀ id group, stores.groups.groups.find? id = some group → PrincipalId id
  ordinary : ∀ tuple ∈ stores.policies.tuples, Ordinary tuple
  linked : ∀ child group, stores.groups.groups.find? child = some group → ∀ parent,
    stores.policies.Stores (parentKey child parent) ↔ group.parent = some parent
  reliable : stores.ids.Reliable numbered
  /-- The ids to come have no group and are bound to none. -/
  fresh : ∀ position id, stores.ids.given numbered position = some id →
    stores.groups.groups.find? id = none ∧
      ∀ parent, ¬stores.policies.Stores (parentKey id parent)

namespace Mirrored

variable {numbered : Nat → String} {config : TokenConfig} {stores : Stores TupleStore}

theorem start {keys : KeyStore} {ids : IdSource} (reliable : ids.Reliable numbered) :
    Mirrored numbered { policies := TupleStore.empty, keys, groups := GroupStore.empty, ids } where
  hierarchy := GroupStore.hierarchy_empty
  named id group found := by simp [GroupStore.empty] at found
  ordinary tuple mem := by simp at mem
  linked child group found := by simp [GroupStore.empty] at found
  reliable := reliable
  fresh position id _ := by simp [GroupStore.empty, TupleStore.Stores]

theorem withKeys (mirrored : Mirrored numbered stores) (keys : KeyStore) :
    Mirrored numbered (stores.withKeys keys) where
  hierarchy := mirrored.hierarchy
  named := mirrored.named
  ordinary := mirrored.ordinary
  linked := mirrored.linked
  reliable := mirrored.reliable
  fresh := mirrored.fresh

theorem withIds (mirrored : Mirrored numbered stores) :
    Mirrored numbered (stores.withIds stores.ids.rest) where
  hierarchy := mirrored.hierarchy
  named := mirrored.named
  ordinary := mirrored.ordinary
  linked := mirrored.linked
  reliable := mirrored.reliable.rest
  fresh position id given := mirrored.fresh (position + 1) id (IdSource.given_rest ▸ given)

theorem withMembers (mirrored : Mirrored numbered stores) {groups : GroupStore}
    (same : groups.groups = stores.groups.groups) :
    Mirrored numbered (stores.withGroups groups) where
  hierarchy := mirrored.hierarchy.ofGroups same
  named id group found := mirrored.named id group (same ▸ found)
  ordinary := mirrored.ordinary
  linked child group found := mirrored.linked child group (same ▸ found)
  reliable := mirrored.reliable
  fresh position id given := by
    rw [show (stores.withGroups groups).groups.groups = stores.groups.groups from same]
    exact mirrored.fresh position id given

/-- Policies that keep the ties to the parents keep the mirror. -/
theorem withPolicies (mirrored : Mirrored numbered stores) {policies : TupleStore}
    (ordinary : ∀ tuple ∈ policies.tuples, Ordinary tuple)
    (same : ∀ child parent, policies.Stores (parentKey child parent) ↔
      stores.policies.Stores (parentKey child parent)) :
    Mirrored numbered (stores.withPolicies policies) where
  hierarchy := mirrored.hierarchy
  named := mirrored.named
  ordinary := ordinary
  linked child group found parent :=
    (same child parent).trans (mirrored.linked child group found parent)
  reliable := mirrored.reliable
  fresh position id given := by
    rcases mirrored.fresh position id given with ⟨free, unbound⟩
    exact ⟨free, fun parent bound => unbound parent ((same id parent).mp bound)⟩

end Mirrored

/-- A request for a plain principal describes a tuple under that principal. -/
theorem key_of_principal {request : PolicyRequest} {tuple : RelationTuple}
    (described : RelationTuple.ofRequest request = .ok tuple)
    (single : request.subjectRelation = "")
    (principal : Subject.parse request.subject = .id request.subject) :
    tuple.key =
      ⟨request.namespaceName, request.object, request.relation, .id request.subject⟩ := by
  rcases RelationTuple.ofRequest_eq_ok_iff.mp described with ⟨_, rfl⟩
  simp [RelationTuple.key, PolicyRequest.subjectRef_of_no_relation single, principal]

theorem ordinary_of_key {tuple : RelationTuple} {object relation name : String}
    (key : tuple.key = ⟨"", object, relation, .id name⟩) (among : relation ∈ ordinaryRelations) :
    Ordinary tuple := by
  simp only [RelationTuple.key, TupleKey.mk.injEq] at key
  rcases key with ⟨namespaceName, _, same, subject⟩
  exact ⟨namespaceName, ⟨name, subject⟩, same ▸ among⟩

theorem membershipPolicy_ordinary {groupId relation kind memberId : String}
    (group : PrincipalId groupId)
    (member : kind = thingsKind ∨ kind = channelsKind ∨
      kind = usersKind ∧ (relation = "" ∨ relation ∈ roles) ∧ PrincipalId memberId) :
    (membershipPolicy groupId relation kind memberId).namespaceName = "" ∧
      (membershipPolicy groupId relation kind memberId).subjectRelation = "" ∧
      PrincipalId (membershipPolicy groupId relation kind memberId).subject ∧
      (membershipPolicy groupId relation kind memberId).relation ∈ groupRelation :: roles := by
  rcases member with rfl | rfl | ⟨rfl, role, principal⟩
  · exact ⟨rfl, rfl, group, List.mem_cons_self⟩
  · exact ⟨rfl, rfl, group, List.mem_cons_self⟩
  · refine ⟨rfl, rfl, principal, List.mem_cons_of_mem _ ?_⟩
    change (if relation = "" then memberRelation else relation) ∈ roles
    rcases role with rfl | role
    · decide
    · rw [if_neg]
      · exact role
      · rintro rfl
        revert role
        decide

/-- The tuples of ordinary members are ordinary, and tie no group to a parent. -/
theorem ordinary_of_members {groupId relation kind : String} {memberIds : List String}
    {tuples : List RelationTuple} (group : PrincipalId groupId)
    (members : OrdinaryMembers relation kind memberIds)
    (described : (memberIds.map (membershipPolicy groupId relation kind)).mapM
      RelationTuple.ofRequest = .ok tuples) :
    ∀ tuple ∈ tuples, Ordinary tuple ∧ tuple.relation ≠ parentGroupRelation := by
  intro tuple mem
  rcases (RelationTuple.of_mapM_eq_ok described).2 tuple mem with ⟨request, requested, single⟩
  rcases List.mem_map.mp requested with ⟨memberId, among, rfl⟩
  have member : kind = thingsKind ∨ kind = channelsKind ∨
      kind = usersKind ∧ (relation = "" ∨ relation ∈ roles) ∧ PrincipalId memberId := by
    rcases members with things | channels | ⟨users, role, principals⟩
    · exact Or.inl things
    · exact Or.inr (Or.inl channels)
    · exact Or.inr (Or.inr ⟨users, role, principals memberId among⟩)
  rcases membershipPolicy_ordinary group member with ⟨noNamespace, noSet, principal, relations⟩
  have key := key_of_principal single noSet principal.2
  rw [noNamespace] at key
  refine ⟨ordinary_of_key key ?_, ?_⟩
  · rcases List.mem_cons.mp relations with same | role
    · rw [same]
      exact List.mem_cons_self
    · exact List.mem_cons_of_mem _ (List.mem_cons_of_mem _ role)
  · have own : tuple.relation = (membershipPolicy groupId relation kind memberId).relation :=
      congrArg TupleKey.relation key
    intro same
    rw [← own, same] at relations
    revert relations
    decide

namespace Mirrored

variable {numbered : Nat → String} {config : TokenConfig} {stores : Stores TupleStore}

/-- Writing ordinary tuples that tie no group to a parent keeps the mirror. -/
theorem write (mirrored : Mirrored numbered stores) {tuples written : List RelationTuple}
    (ordinary : ∀ tuple ∈ tuples, Ordinary tuple ∧ tuple.relation ≠ parentGroupRelation)
    (among : ∀ tuple ∈ written, tuple ∈ tuples) :
    Mirrored numbered (stores.withPolicies (stores.policies.write written)) := by
  refine mirrored.withPolicies ?_ ?_
  · intro tuple mem
    rcases TupleStore.mem_or_mem_of_mem_write mem with old | new
    · exact mirrored.ordinary tuple old
    · exact (ordinary tuple (among tuple new)).1
  · intro child parent
    rw [TupleStore.stores_write]
    refine or_iff_left ?_
    rintro ⟨tuple, new, same⟩
    exact (ordinary tuple (among tuple new)).2 (congrArg TupleKey.relation same)

/-- Deleting ordinary tuples that tie no group to a parent keeps the mirror. -/
theorem delete (mirrored : Mirrored numbered stores) {tuples : List RelationTuple}
    (ordinary : ∀ tuple ∈ tuples, Ordinary tuple ∧ tuple.relation ≠ parentGroupRelation) :
    Mirrored numbered (stores.withPolicies (stores.policies.delete tuples)) := by
  refine mirrored.withPolicies ?_ ?_
  · intro tuple mem
    exact mirrored.ordinary tuple (TupleStore.mem_tuples_delete.mp mem).1
  · intro child parent
    rw [TupleStore.stores_delete]
    refine and_iff_left ?_
    intro tuple mem same
    exact (ordinary tuple mem).2 (congrArg TupleKey.relation same).symm

end Mirrored

/-- Where the tuples with a relation that is no permission have principals as subjects, only a stored
tuple satisfies the probe for the relation. -/
theorem stores_of_satisfies {store : TupleStore} {schema : PermissionSchema}
    {tuple : RelationTuple} (addressable : store.Addressable)
    (principals : ∀ other ∈ store.tuples, other.relation = tuple.relation →
      ∃ name, other.subject = .id name)
    (unlisted : schema.listedRelations? tuple.objectType tuple.relation = none)
    (readsBack : tuple.probedSubject = tuple.subject)
    (satisfied : store.satisfies schema tuple = true) : store.Stores tuple.key := by
  have granted : store.check schema tuple.probedSubject tuple.goal = .ok true :=
    (TupleStore.check_eq addressable).trans (congrArg Except.ok satisfied)
  rcases TupleStore.chain_of_check addressable granted with ⟨rest, last, chain, direct, _⟩
  cases chain with
  | stop =>
    rcases direct with ⟨relation, same | ⟨listed, found, _⟩, stored⟩
    · rw [same, readsBack] at stored
      exact stored
    · exact absurd (found.symm.trans unlisted) (by simp)
  | follow step _ =>
    cases step with
    | throughSet stored _ granting named =>
      rcases granting with asserted | ⟨listed, found, _⟩
      · rcases principals _ stored asserted with ⟨name, principal⟩
        rw [principal] at named
        cases named
      · exact absurd (found.symm.trans unlisted) (by simp)
    | throughParent permission =>
      simp [PermissionSchema.isPermission, RelationTuple.goal, unlisted] at permission

/-- The policies of a new group are about that group, and tie it to its own parent only. -/
theorem asserted_of_creationPolicies {owner id : String} {parent : Option String}
    {tuples : List RelationTuple} (principal : PrincipalId owner)
    (parents : ∀ parentId, parent = some parentId → PrincipalId parentId)
    (described : (creationPolicies owner parent id).mapM RelationTuple.ofRequest = .ok tuples) :
    ∀ tuple ∈ tuples, Ordinary tuple ∧ tuple.object = id ∧
      ∀ child parentId, tuple.key = parentKey child parentId → parent = some parentId := by
  intro tuple mem
  rcases (RelationTuple.of_mapM_eq_ok described).2 tuple mem with ⟨request, among, single⟩
  rcases List.mem_cons.mp among with rfl | bound
  · have key : tuple.key = ⟨"", id, administratorRelation, .id owner⟩ :=
      key_of_principal single rfl principal.2
    refine ⟨ordinary_of_key key (by decide), congrArg TupleKey.object key, ?_⟩
    intro child parentId same
    have relation : administratorRelation = parentGroupRelation :=
      congrArg TupleKey.relation (key.symm.trans same)
    exact absurd relation (by decide)
  · simp only [Option.mem_toList, Option.map_eq_some_iff] at bound
    rcases bound with ⟨parentId, given, rfl⟩
    have key : tuple.key = parentKey id parentId :=
      key_of_principal single rfl (parents parentId given).2
    refine ⟨ordinary_of_key key (by decide), congrArg TupleKey.object key, ?_⟩
    intro child other same
    have subject : Subject.id parentId = .id other :=
      congrArg TupleKey.subject (key.symm.trans same)
    rw [given, Subject.id.inj subject]

/-- The policies of a new group under a parent tie it to that parent. -/
theorem bound_of_creationPolicies {owner id parentId : String} {tuples : List RelationTuple}
    (principal : PrincipalId parentId)
    (described : (creationPolicies owner (some parentId) id).mapM RelationTuple.ofRequest =
      .ok tuples) :
    ∃ tuple ∈ tuples, tuple.key = parentKey id parentId ∧ tuple.objectType = groupType ∧
      tuple.probedSubject = tuple.subject := by
  have requested : parentPolicy parentId id ∈ creationPolicies owner (some parentId) id := by
    simp [creationPolicies]
  rcases (RelationTuple.of_mapM_eq_ok described).1 _ requested with ⟨tuple, mem, single⟩
  have key : tuple.key = parentKey id parentId := key_of_principal single rfl principal.2
  refine ⟨tuple, mem, key, ?_, ?_⟩
  · rcases RelationTuple.ofRequest_eq_ok_iff.mp single with ⟨_, rfl⟩
    rfl
  · have subject : tuple.subject = .id parentId := congrArg TupleKey.subject key
    rw [RelationTuple.probedSubject, subject]
    exact principal.2

/-- The policies that come with a group bind it to its parent, and leave all others as they were. -/
theorem stores_parentKey_of_creation {store : TupleStore} {owner id : String}
    {parent : Option String} {tuples : List RelationTuple} (addressable : store.Addressable)
    (ordinary : ∀ tuple ∈ store.tuples, Ordinary tuple)
    (unbound : ∀ parentId, ¬store.Stores (parentKey id parentId)) (principal : PrincipalId owner)
    (parents : ∀ parentId, parent = some parentId → PrincipalId parentId)
    (described : (creationPolicies owner parent id).mapM RelationTuple.ofRequest = .ok tuples)
    (child parentId : String) :
    (store.write (LocalAgent.pending store .groupsSchema tuples)).Stores
        (parentKey child parentId) ↔
      if child = id then parent = some parentId else store.Stores (parentKey child parentId) := by
  have asserted := asserted_of_creationPolicies principal parents described
  rw [TupleStore.stores_write]
  by_cases new : child = id
  · subst new
    rw [if_pos rfl]
    constructor
    · rintro (old | ⟨tuple, mem, same⟩)
      · exact absurd old (unbound parentId)
      · exact (asserted tuple (LocalAgent.mem_of_mem_pending mem)).2.2 child parentId same
    · rintro rfl
      rcases bound_of_creationPolicies (parents parentId rfl) described with
        ⟨tuple, mem, key, typed, readsBack⟩
      rcases probe : store.satisfies .groupsSchema tuple with _ | _
      · exact Or.inr ⟨tuple, by simp [LocalAgent.pending, mem, probe], key⟩
      · have relation : tuple.relation = parentGroupRelation := congrArg TupleKey.relation key
        have unlisted : PermissionSchema.groupsSchema.listedRelations? tuple.objectType
            tuple.relation = none := by
          rw [typed, relation]
          rfl
        have stored := stores_of_satisfies addressable (fun other mem _ => (ordinary other mem).2.1)
          unlisted readsBack probe
        exact Or.inl (key ▸ stored)
  · rw [if_neg new]
    refine or_iff_left ?_
    rintro ⟨tuple, mem, same⟩
    have object : tuple.object = child := congrArg TupleKey.object same
    exact new (object.symm.trans (asserted tuple (LocalAgent.mem_of_mem_pending mem)).2.1)

namespace Mirrored

variable {numbered : Nat → String} {config : TokenConfig} {stores : Stores TupleStore}

theorem principal_of_parent (mirrored : Mirrored numbered stores) {group placed : Group}
    {groups : GroupStore} (saved : stores.groups.save group = .ok (placed, groups))
    {parentId : String} (named : group.parent.filter (· ≠ "") = some parentId) :
    PrincipalId parentId := by
  rcases (GroupStore.of_save saved).2.1 with ⟨none, _⟩ | ⟨other, above, same, found, _⟩
  · rw [named] at none
    cases none
  · rw [named, Option.some.injEq] at same
    exact mirrored.named parentId above (same ▸ found)

/-- A new group comes with the tuple that binds it to its parent. -/
theorem created (mirrored : Mirrored numbered stores) (addressable : stores.policies.Addressable)
    {now : Instant} {draft : GroupDraft} {id owner : String} {placed : Group} {groups : GroupStore}
    {tuples : List RelationTuple} (given : stores.ids.given numbered 0 = some id)
    (principal : PrincipalId owner)
    (saved : stores.groups.save (draftedGroup draft id owner now) = .ok (placed, groups))
    (described : (creationPolicies owner (draft.parent.filter (· ≠ "")) placed.id).mapM
      RelationTuple.ofRequest = .ok tuples) :
    Mirrored numbered (((stores.withIds stores.ids.rest).withGroups groups).withPolicies
      (stores.policies.write (LocalAgent.pending stores.policies .groupsSchema tuples))) := by
  have own : placed.id = id := GroupStore.id_of_save saved
  have parent : placed.parent = draft.parent.filter (· ≠ "") :=
    (mirrored.hierarchy.parent_of_save saved).trans filter_parent_draftedGroup
  rw [own] at described
  have parents : ∀ parentId, draft.parent.filter (· ≠ "") = some parentId →
      PrincipalId parentId := by
    intro parentId named
    exact mirrored.principal_of_parent saved (filter_parent_draftedGroup.trans named)
  have asserted := asserted_of_creationPolicies principal parents described
  have links := stores_parentKey_of_creation addressable mirrored.ordinary
    (mirrored.fresh 0 id given).2 principal parents described
  have held : ∀ other, groups.groups.find? other =
      if other = id then some placed else stores.groups.groups.find? other :=
    GroupStore.find?_save saved
  refine ⟨mirrored.hierarchy.save saved, ?_, ?_, ?_, mirrored.reliable.rest, ?_⟩
  · intro other group found
    by_cases new : other = id
    · rw [new]
      exact ⟨mirrored.reliable.nonempty 0 id given,
        Subject.parse_of_no_colon (mirrored.reliable.unmarked 0 id given).2.1⟩
    · change groups.groups.find? other = some group at found
      rw [held, if_neg new] at found
      exact mirrored.named other group found
  · intro tuple mem
    rcases TupleStore.mem_or_mem_of_mem_write mem with old | new
    · exact mirrored.ordinary tuple old
    · exact (asserted tuple (LocalAgent.mem_of_mem_pending new)).1
  · intro child group found parentId
    refine (links child parentId).trans ?_
    change groups.groups.find? child = some group at found
    rw [held] at found
    by_cases new : child = id
    · rw [if_pos new, Option.some.injEq] at found
      rw [if_pos new, ← parent, found]
    · rw [if_neg new] at found
      rw [if_neg new]
      exact mirrored.linked child group found parentId
  · intro position other later
    have coming : stores.ids.given numbered (position + 1) = some other :=
      IdSource.given_rest ▸ later
    have new : other ≠ id := by
      rintro rfl
      exact absurd (mirrored.reliable.distinct _ _ _ coming given) (Nat.succ_ne_zero position)
    rcases mirrored.fresh (position + 1) other coming with ⟨free, unbound⟩
    refine ⟨?_, fun parentId bound => unbound parentId ?_⟩
    · change groups.groups.find? other = none
      rw [held, if_neg new]
      exact free
    · have old := (links other parentId).mp bound
      rwa [if_neg new] at old

/-- The groups that remain when one is removed stay bound to their parents. -/
theorem removed (mirrored : Mirrored numbered stores) {id : String} {below : List Group}
    {groups : GroupStore} (listed : stores.groups.children id maxLevel = .ok below)
    (deleted : stores.groups.delete id = .ok groups) :
    Mirrored numbered ((stores.withGroups groups).withPolicies
      (stores.policies.sweep groupType (id :: below.map (·.id)))) := by
  rcases GroupStore.of_delete deleted with ⟨_, _, remains⟩
  have hierarchy := mirrored.hierarchy.delete deleted
  have swept : ∀ other group, groups.groups.find? other = some group →
      other ∉ id :: below.map (·.id) :=
    fun _ _ held => mirrored.hierarchy.not_mem_removed listed deleted held
  have stays : ∀ tuple ∈ (stores.policies.sweep groupType (id :: below.map (·.id))).tuples,
      tuple ∈ stores.policies.tuples := fun _ mem => TupleStore.tuples_sweep_sublist.subset mem
  have kept : ∀ child group, groups.groups.find? child = some group →
      stores.groups.groups.find? child = some group :=
    fun child group held => ((remains child group).mp held).1
  refine ⟨hierarchy, ?_, ?_, ?_, mirrored.reliable, ?_⟩
  · intro other group held
    exact mirrored.named other group (kept other group held)
  · intro tuple mem
    exact mirrored.ordinary tuple (stays tuple mem)
  · intro child group held parentId
    refine Iff.trans ⟨?_, ?_⟩ (mirrored.linked child group (kept child group held) parentId)
    · rintro ⟨tuple, mem, key⟩
      exact ⟨tuple, stays tuple mem, key⟩
    · intro stored
      have points : groups.PointsTo child parentId :=
        ⟨group, held, (mirrored.linked child group (kept child group held) parentId).mp stored⟩
      rcases hierarchy.of_pointsTo points with ⟨_, above, _, heldAbove, _⟩
      exact TupleStore.stores_sweep_of_unnamed rfl (swept child group held)
        (swept parentId above heldAbove) stored
  · intro position other given
    rcases mirrored.fresh position other given with ⟨free, unbound⟩
    refine ⟨?_, ?_⟩
    · rcases held : groups.groups.find? other with _ | group
      · exact held
      · exact absurd ((kept other group held).symm.trans free) (by simp)
    · rintro parentId ⟨tuple, mem, key⟩
      exact unbound parentId ⟨tuple, stays tuple mem, key⟩

end Mirrored

theorem creationPolicies_valid {owner id : String} {parent : Option String} (owned : owner ≠ "")
    (named : id ≠ "") (parents : ∀ parentId, parent = some parentId → parentId ≠ "") :
    ∃ tuples, (creationPolicies owner parent id).mapM RelationTuple.ofRequest = .ok tuples := by
  have administrator : (administratorPolicy owner id).validateWrite = .ok () := by
    rw [PolicyRequest.validateWrite_eq_ok_iff, PolicyRequest.commonFault?_eq_none_iff]
    exact ⟨⟨owned, rfl, named⟩, (by decide : administratorRelation ≠ "")⟩
  have first := RelationTuple.ofRequest_eq_ok_iff.mpr ⟨administrator, rfl⟩
  rcases parent with _ | parentId
  · exact ⟨_, by
      simp only [creationPolicies, Option.map_none, Option.toList_none, List.mapM_cons, first]
      rfl⟩
  · have above : (parentPolicy parentId id).validateWrite = .ok () := by
      rw [PolicyRequest.validateWrite_eq_ok_iff, PolicyRequest.commonFault?_eq_none_iff]
      exact ⟨⟨parents parentId rfl, rfl, named⟩, (by decide : parentGroupRelation ≠ "")⟩
    have second := RelationTuple.ofRequest_eq_ok_iff.mpr ⟨above, rfl⟩
    exact ⟨_, by
      simp only [creationPolicies, Option.map_some, Option.toList_some, List.mapM_cons, first,
        second]
      rfl⟩

namespace Mirrored

variable {numbered : Nat → String} {config : TokenConfig} {stores : Stores TupleStore}
  {now : Instant} {token : String}

/-- A creation keeps the mirror, whatever its outcome. -/
theorem createGroup (mirrored : Mirrored numbered stores)
    (addressable : stores.policies.Addressable)
    (principal : ∀ key, config.tokenizer.parse now token = .ok key → PrincipalId key.subjectId)
    (draft : GroupDraft) :
    Mirrored numbered
      (((inMemoryServices numbered config).createGroup now token draft).perform stores).2 := by
  have outcome := createGroup_outcome numbered config now token stores addressable draft
  generalize ((inMemoryServices numbered config).createGroup now token draft).perform stores = result
    at outcome ⊢
  cases outcome with
  | stopped stop keys => exact mirrored.withKeys keys
  | unsaved stop => exact mirrored.withIds
  | @undone key id placed groups cause parsed given saved invalid =>
    have own : placed.id = id := GroupStore.id_of_save saved
    have parents : ∀ parentId, draft.parent.filter (· ≠ "") = some parentId → parentId ≠ "" := by
      simp
    rcases creationPolicies_valid (principal key parsed).1
      (own ▸ mirrored.reliable.nonempty 0 id given) parents with ⟨tuples, valid⟩
    cases invalid.symm.trans valid
  | created parsed allowed given saved valid =>
    exact mirrored.created addressable given (principal _ parsed) saved valid

/-- A removal keeps the mirror, whatever its outcome. -/
theorem removeGroup (mirrored : Mirrored numbered stores)
    (addressable : stores.policies.Addressable) (id : String) :
    Mirrored numbered
      (((inMemoryServices numbered config).removeGroup now token id).perform stores).2 := by
  have named : ∀ other group, stores.groups.groups.find? other = some group →
      group.id = other ∧ other ≠ "" ∧ Subject.parse other = .id other :=
    fun other group found =>
      ⟨mirrored.hierarchy.keyed other group found, mirrored.named other group found⟩
  have outcome := removeGroup_outcome numbered config now token stores addressable named id
  generalize ((inMemoryServices numbered config).removeGroup now token id).perform stores = result
    at outcome ⊢
  cases outcome with
  | stopped stop keys => exact mirrored.withKeys keys
  | removed parsed allowed listed deleted => exact mirrored.removed listed deleted

/-- A change of ordinary members keeps the mirror, whatever its outcome, if what becomes of the
policies by ordinary tuples that tie no group to a parent keeps it. -/
theorem changeMembers {groupId relation kind : String} {memberIds : List String}
    {rows : Except GroupError GroupStore} {policies : List RelationTuple → TupleStore}
    {outcome : Outcome Unit} (mirrored : Mirrored numbered stores)
    (members : OrdinaryMembers relation kind memberIds)
    (filed : ∀ groups, rows = .ok groups →
      (∃ group, stores.groups.groups.find? groupId = some group) ∧
        groups.groups = stores.groups.groups)
    (kept : ∀ groups tuples, Mirrored numbered (stores.withGroups groups) →
      (∀ tuple ∈ tuples, Ordinary tuple ∧ tuple.relation ≠ parentGroupRelation) →
      Mirrored numbered ((stores.withGroups groups).withPolicies (policies tuples)))
    (changes : MembersOutcome config now token stores groupId rows
      ((memberIds.map (membershipPolicy groupId relation kind)).mapM RelationTuple.ofRequest)
      policies outcome) : Mirrored numbered outcome.2 := by
  cases changes with
  | stopped stop keys => exact mirrored.withKeys keys
  | rowsOnly parsed allowed changed invalid => exact mirrored.withMembers (filed _ changed).2
  | changed parsed allowed changed valid =>
    rcases filed _ changed with ⟨⟨group, found⟩, same⟩
    have ordinary := ordinary_of_members (mirrored.named groupId group found) members valid
    exact kept _ _ (mirrored.withMembers same) ordinary

/-- Every ordinary operation, whether it succeeds or not, keeps the policies mirroring the
hierarchy. -/
theorem call (mirrored : Mirrored numbered stores) (addressable : stores.policies.Addressable)
    (principal : ∀ key, config.tokenizer.parse now token = .ok key → PrincipalId key.subjectId)
    {call : GroupCall} (ordinary : call.Ordinary) :
    Mirrored numbered
      ((call.run (inMemoryServices numbered config) now token).perform stores).2 := by
  cases call with
  | create draft =>
    rw [GroupCall.run, Action.perform_unanswered]
    exact mirrored.createGroup addressable principal draft
  | remove id => exact mirrored.removeGroup addressable id
  | assign groupId relation kind memberIds =>
    refine mirrored.changeMembers ordinary (fun _ => GroupStore.of_assign) ?_
      (assign_outcome numbered config now token stores addressable groupId relation kind memberIds)
    intro groups tuples filed ordinary
    exact filed.write ordinary fun _ => LocalAgent.mem_of_mem_pending
  | unassign groupId relation kind memberIds =>
    refine mirrored.changeMembers ordinary (fun _ => GroupStore.of_unassign) ?_
      (unassign_outcome numbered config now token stores groupId relation kind memberIds)
    intro groups tuples filed ordinary
    exact filed.delete ordinary

end Mirrored

/-- Along ordinary runs the policies mirror the hierarchy. -/
theorem Reached.mirrored {numbered : Nat → String} {config : TokenConfig}
    {stores : Stores TupleStore} (reached : Reached numbered config stores) :
    Mirrored numbered stores ∧ stores.policies.Addressable := by
  induction reached with
  | start reliable => exact ⟨.start reliable, (by decide : TupleStore.empty.Addressable)⟩
  | call before now token principal call ordinary addressable ih =>
    exact ⟨ih.1.call ih.2 principal ordinary, addressable⟩

theorem Reached.create {numbered : Nat → String} {config : TokenConfig} {stores : Stores TupleStore}
    {now : Instant} {token id : String} {draft : GroupDraft} {key : Key} {placed : Group}
    {groups : GroupStore} {tuples : List RelationTuple} (before : Reached numbered config stores)
    (parsed : config.tokenizer.parse now token = .ok key) (access : key.keyType = .access)
    (principal : PrincipalId key.subjectId) (valid : draft.validate = .ok ())
    (allowed : ∀ parentId, draft.parent.filter (· ≠ "") = some parentId →
      stores.Allows key.subjectId editPermission parentId)
    (given : stores.ids.given numbered 0 = some id)
    (saved : stores.groups.save (draftedGroup draft id key.subjectId now) = .ok (placed, groups))
    (described : (creationPolicies key.subjectId (draft.parent.filter (· ≠ "")) placed.id).mapM
      RelationTuple.ofRequest = .ok tuples)
    (addressable : (stores.policies.write
      (LocalAgent.pending stores.policies .groupsSchema tuples)).Addressable) :
    Reached numbered config (((stores.withIds stores.ids.rest).withGroups groups).withPolicies
      (stores.policies.write (LocalAgent.pending stores.policies .groupsSchema tuples))) := by
  have identified := perform_identify_of_access numbered config now token stores parsed access
  have created := perform_createGroup numbered config now token stores before.mirrored.2 valid
    identified allowed given saved described
  have caller : ∀ other, config.tokenizer.parse now token = .ok other →
      PrincipalId other.subjectId := by
    intro other alsoParsed
    obtain rfl : key = other := Except.ok.inj (parsed.symm.trans alsoParsed)
    exact principal
  have after := before.call now token caller (.create draft) trivial
  rw [GroupCall.run, Action.perform_bind_ok created] at after
  exact after addressable

end Service

end RelationAuth
