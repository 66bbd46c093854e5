import RelationAuth.Proofs.Groups.Members
import RelationAuth.Proofs.Service.GroupRuns

/-!
# Policies of things and channels

A thing or a channel points to its group.  The two kinds of members are told apart by the type of the
object alone, which has no part in the key of a tuple: one group, one id, one key.

The objects that a group is listed with are the members whose tuples are stored, as long as every
tuple with the relation of members stands for a row.
-/

namespace RelationAuth.Service

open Groups Identity Policy

/-- The kinds of members that point to their group. -/
inductive Resource where
  | thing
  | channel
  deriving DecidableEq

namespace Resource

/-- The kind of members that resources are. -/
def kind : Resource → String
  | thing => thingsKind
  | channel => channelsKind

/-- The type of the entities that resources are. -/
def type : Resource → String
  | thing => thingType
  | channel => channelType

/-- The other one of the two. -/
def other : Resource → Resource
  | thing => channel
  | channel => thing

/-- The tuple that makes a resource a member of a group. -/
def tuple (resource : Resource) (groupId memberId : String) : RelationTuple :=
  { namespaceName := ""
    objectType := resource.type
    object := memberId
    relation := groupRelation
    subjectType :=
      match Subject.parse groupId with
      | .set holders => holders.namespaceName
      | .id _ => groupType
    subject := Subject.parse groupId }

/-- The request that lists the members of a group that are resources of a kind. -/
def listing (resource : Resource) (groupId : String) : PolicyRequest :=
  { subjectType := groupType
    subject := groupId
    relation := groupRelation
    objectType := resource.type }

variable {resource another : Resource} {groupId otherId memberId otherMember relation : String}
  {memberIds : List String} {tuples : List RelationTuple} {store : TupleStore}

theorem kind_eq_iff : resource.kind = another.kind ↔ resource = another := by
  cases resource <;> cases another <;> decide

theorem type_eq_iff : resource.type = another.type ↔ resource = another := by
  cases resource <;> cases another <;> decide

theorem eq_or_eq_other (resource another : Resource) :
    another = resource ∨ another = resource.other := by
  cases resource <;> cases another <;> decide

theorem other_ne : resource.other ≠ resource := by
  cases resource <;> decide

/-- Neither the relation that is asked for nor the kind of the resource shows in the key. -/
theorem key_tuple_eq_iff :
    (resource.tuple groupId memberId).key = (another.tuple otherId otherMember).key ↔
      groupId = otherId ∧ memberId = otherMember := by
  simp only [RelationTuple.key, tuple, TupleKey.mk.injEq, true_and,
    Subject.parse_injective.eq_iff]
  exact and_comm

/-- The tuples of members differ in the group, the member or the resource. -/
theorem tuple_eq_iff :
    resource.tuple groupId memberId = another.tuple otherId otherMember ↔
      resource = another ∧ groupId = otherId ∧ memberId = otherMember := by
  constructor
  · intro same
    exact ⟨type_eq_iff.mp (congrArg RelationTuple.objectType same),
      key_tuple_eq_iff.mp (congrArg RelationTuple.key same)⟩
  · rintro ⟨rfl, rfl, rfl⟩
    rfl

theorem probedSubject_tuple :
    (resource.tuple groupId memberId).probedSubject =
      (resource.tuple groupId memberId).subject := by
  rw [RelationTuple.probedSubject, tuple, Subject.display_parse]

theorem membershipPolicy_eq :
    membershipPolicy groupId relation resource.kind memberId =
      { resource.listing groupId with object := memberId } := by
  cases resource <;> rfl

theorem eq_tuple_of_described {described : RelationTuple}
    (valid : RelationTuple.ofRequest (membershipPolicy groupId relation resource.kind memberId) =
      .ok described) : described = resource.tuple groupId memberId := by
  rw [membershipPolicy_eq] at valid
  rw [(RelationTuple.ofRequest_eq_ok_iff.mp valid).2,
    PolicyRequest.subjectRef_of_no_relation (by rfl)]
  rfl

theorem mem_described_iff
    (described : (memberIds.map (membershipPolicy groupId relation resource.kind)).mapM
      RelationTuple.ofRequest = .ok tuples) {member : RelationTuple} :
    member ∈ tuples ↔ ∃ memberId ∈ memberIds, resource.tuple groupId memberId = member := by
  rcases RelationTuple.of_mapM_eq_ok described with ⟨all, only⟩
  constructor
  · intro mem
    rcases only member mem with ⟨request, requested, valid⟩
    rcases List.mem_map.mp requested with ⟨memberId, among, rfl⟩
    exact ⟨memberId, among, (eq_tuple_of_described valid).symm⟩
  · rintro ⟨memberId, among, rfl⟩
    rcases all _ (List.mem_map_of_mem among) with ⟨member, mem, valid⟩
    exact eq_tuple_of_described valid ▸ mem

/-! ### Probes -/

/-- A stored tuple of a member satisfies its probe. -/
theorem satisfies_of_stores (addressable : store.Addressable)
    (stored : store.Stores (resource.tuple groupId memberId).key) :
    store.satisfies .groupsSchema (resource.tuple groupId memberId) = true := by
  have granted : store.check .groupsSchema (resource.tuple groupId memberId).probedSubject
      (resource.tuple groupId memberId).goal = .ok true := by
    rw [probedSubject_tuple]
    exact TupleStore.check_of_direct ⟨groupRelation, Or.inl rfl, stored⟩
  rw [TupleStore.check_eq addressable] at granted
  exact Except.ok.inj granted

/-- Where no group that has members is named like a set, only a stored tuple satisfies a probe. -/
theorem satisfies_iff_stores (addressable : store.Addressable)
    (principals : ∀ other ∈ store.tuples, other.relation = groupRelation →
      ∃ name, other.subject = .id name) :
    store.satisfies .groupsSchema (resource.tuple groupId memberId) = true ↔
      store.Stores (resource.tuple groupId memberId).key := by
  refine ⟨fun satisfied => ?_, satisfies_of_stores addressable⟩
  have unlisted : PermissionSchema.groupsSchema.listedRelations? resource.type groupRelation =
      none := by
    cases resource <;> decide
  exact stores_of_satisfies addressable principals unlisted probedSubject_tuple satisfied

/-! ### Listings -/

theorem objectsOf_listing (named : groupId ≠ "") :
    TupleFilter.objectsOf (resource.listing groupId) = .ok {
      objectType := some resource.type
      relation := some groupRelation
      subjectType := if (Subject.parse groupId).isSet then none else some groupType
      subject := some (Subject.parse groupId) } := by
  have given : (resource.listing groupId).subject ≠ "" := named
  have subject : (resource.listing groupId).subjectRef = Subject.parse groupId :=
    PolicyRequest.subjectRef_of_no_relation rfl
  rw [TupleFilter.objectsOf, if_neg given, subject]
  cases resource <;> rfl

end Resource

variable {resource : Resource} {groupId memberId : String} {memberIds : List String}
  {policies : TupleStore} {groups after : GroupStore} {tuples : List RelationTuple}
  {relation : String}

/-- Whether every stored tuple with the relation of members stands for a row of a stored group. -/
structure Backed (policies : TupleStore) (groups : GroupStore) : Prop where
  named : ∀ id group, groups.groups.find? id = some group → id ≠ ""
  owned : ∀ groupId kind memberId, memberId ∈ groups.memberIds groupId kind →
    ∃ group, groups.groups.find? groupId = some group
  backed : ∀ tuple ∈ policies.tuples, tuple.relation = groupRelation →
    ∃ (resource : Resource) (groupId memberId : String),
      memberId ∈ groups.memberIds groupId resource.kind ∧ tuple = resource.tuple groupId memberId
  unrepeated : policies.Unrepeated

/-- Whether the tuple of every row of resources is stored. -/
def Bound (policies : TupleStore) (groups : GroupStore) : Prop :=
  ∀ (resource : Resource) (groupId memberId : String),
    memberId ∈ groups.memberIds groupId resource.kind →
      resource.tuple groupId memberId ∈ policies.tuples

namespace Backed

variable (backed : Backed policies groups)

include backed

theorem mem_memberIds (stored : resource.tuple groupId memberId ∈ policies.tuples) :
    memberId ∈ groups.memberIds groupId resource.kind := by
  rcases backed.backed _ stored rfl with ⟨another, otherId, otherMember, row, same⟩
  rcases Resource.tuple_eq_iff.mp same with ⟨rfl, rfl, rfl⟩
  exact row

/-- A member of one kind is none of the other kind, if the tuples of both are stored. -/
theorem not_mem_other (bound : Bound policies groups)
    (row : memberId ∈ groups.memberIds groupId resource.other.kind) :
    memberId ∉ groups.memberIds groupId resource.kind := by
  intro rowToo
  have same := backed.unrepeated.eq_of_key_eq (bound _ _ _ row) (bound _ _ _ rowToo)
    (Resource.key_tuple_eq_iff.mpr ⟨rfl, rfl⟩)
  exact Resource.other_ne (Resource.tuple_eq_iff.mp same).1

/-! ### What calls do -/

theorem write {written : List RelationTuple}
    (named : ∀ id group, after.groups.find? id = some group → id ≠ "")
    (owned : ∀ groupId kind memberId, memberId ∈ after.memberIds groupId kind →
      ∃ group, after.groups.find? groupId = some group)
    (kept : ∀ groupId kind memberId, memberId ∈ groups.memberIds groupId kind →
      memberId ∈ after.memberIds groupId kind)
    (new : ∀ tuple ∈ written, tuple.relation = groupRelation →
      ∃ (resource : Resource) (groupId memberId : String),
        memberId ∈ after.memberIds groupId resource.kind ∧
          tuple = resource.tuple groupId memberId) :
    Backed (policies.write written) after where
  named := named
  owned := owned
  backed tuple mem related := by
    rcases TupleStore.mem_or_mem_of_mem_write mem with old | added
    · rcases backed.backed tuple old related with ⟨resource, groupId, memberId, row, same⟩
      exact ⟨resource, groupId, memberId, kept _ _ _ row, same⟩
    · exact new tuple added related
  unrepeated := backed.unrepeated.write written

/-- An assignment backs the tuples that it writes by its rows. -/
theorem assign (assigned : groups.assign groupId resource.kind memberIds = .ok after)
    (described : (memberIds.map (membershipPolicy groupId relation resource.kind)).mapM
      RelationTuple.ofRequest = .ok tuples) :
    Backed (policies.write (LocalAgent.pending policies .groupsSchema tuples)) after := by
  rcases GroupStore.of_assign assigned with ⟨stored, same⟩
  refine backed.write ?_ ?_ ?_ ?_
  · rw [same]
    exact backed.named
  · intro otherId kind memberId row
    rw [same]
    rcases (GroupStore.mem_memberIds_assign assigned).mp row with old | ⟨⟨rfl, _⟩, _⟩
    · exact backed.owned otherId kind memberId old
    · exact stored
  · intro otherId kind memberId row
    exact (GroupStore.mem_memberIds_assign assigned).mpr (.inl row)
  · intro tuple mem _
    rcases (Resource.mem_described_iff described).mp (LocalAgent.mem_of_mem_pending mem) with
      ⟨memberId, among, rfl⟩
    exact ⟨resource, groupId, memberId,
      (GroupStore.mem_memberIds_assign assigned).mpr (.inr ⟨⟨rfl, rfl⟩, among⟩), rfl⟩

/-- A removal of members takes the tuples of the rows that go. -/
theorem unassign (unassigned : groups.unassign groupId resource.kind memberIds = .ok after)
    (described : (memberIds.map (membershipPolicy groupId relation resource.kind)).mapM
      RelationTuple.ofRequest = .ok tuples) :
    Backed (policies.delete tuples) after := by
  have same := (GroupStore.of_unassign unassigned).2
  refine ⟨?_, ?_, ?_, backed.unrepeated.delete tuples⟩
  · rw [same]
    exact backed.named
  · intro otherId kind memberId row
    rw [same]
    exact backed.owned otherId kind memberId
      ((GroupStore.mem_memberIds_unassign unassigned).mp row).1
  · intro tuple mem related
    rw [TupleStore.mem_tuples_delete] at mem
    rcases backed.backed tuple mem.1 related with ⟨another, otherId, memberId, row, rfl⟩
    refine ⟨another, otherId, memberId,
      (GroupStore.mem_memberIds_unassign unassigned).mpr ⟨row, ?_⟩, rfl⟩
    rintro ⟨⟨rfl, _⟩, among⟩
    exact mem.2 _ ((Resource.mem_described_iff described).mpr ⟨memberId, among, rfl⟩)
      (Resource.key_tuple_eq_iff.mpr ⟨rfl, rfl⟩)

/-- After an assignment all rows have their tuples exactly if no new row satisfied its probe. -/
theorem bound_assign_iff (addressable : policies.Addressable) (bound : Bound policies groups)
    (assigned : groups.assign groupId resource.kind memberIds = .ok after)
    (described : (memberIds.map (membershipPolicy groupId relation resource.kind)).mapM
      RelationTuple.ofRequest = .ok tuples) :
    Bound (policies.write (LocalAgent.pending policies .groupsSchema tuples)) after ↔
      ¬∃ memberId ∈ memberIds, memberId ∉ groups.memberIds groupId resource.kind ∧
        policies.satisfies .groupsSchema (resource.tuple groupId memberId) = true := by
  constructor
  · rintro boundAfter ⟨memberId, among, new, satisfied⟩
    have row : memberId ∈ after.memberIds groupId resource.kind :=
      (GroupStore.mem_memberIds_assign assigned).mpr (.inr ⟨⟨rfl, rfl⟩, among⟩)
    rcases TupleStore.mem_or_mem_of_mem_write (boundAfter resource groupId memberId row) with
      old | written
    · exact new (backed.mem_memberIds old)
    · simp [LocalAgent.pending, satisfied] at written
  · intro unsatisfied another otherId memberId row
    rcases (GroupStore.mem_memberIds_assign assigned).mp row with old | ⟨⟨rfl, kinds⟩, among⟩
    · exact TupleStore.tuples_sublist_write.subset (bound another otherId memberId old)
    obtain rfl := Resource.kind_eq_iff.mp kinds
    by_cases known : memberId ∈ groups.memberIds otherId another.kind
    · exact TupleStore.tuples_sublist_write.subset (bound another otherId memberId known)
    -- The tuple of a new row is pending, so its key is stored, and no other tuple can have it.
    have denied : ¬policies.satisfies .groupsSchema (another.tuple otherId memberId) = true :=
      fun satisfied => unsatisfied ⟨memberId, among, known, satisfied⟩
    have pending : another.tuple otherId memberId ∈
        LocalAgent.pending policies .groupsSchema tuples := by
      rw [LocalAgent.pending, List.mem_eraseDups, List.mem_filter, Bool.not_eq_true',
        ← Bool.not_eq_true]
      exact ⟨(Resource.mem_described_iff described).mpr ⟨memberId, among, rfl⟩, denied⟩
    rcases TupleStore.stores_write.mpr (.inr ⟨_, pending, rfl⟩) with ⟨tuple, mem, same⟩
    rcases TupleStore.mem_or_mem_of_mem_write mem with old | written
    · exact absurd (Resource.satisfies_of_stores addressable ⟨tuple, old, same⟩) denied
    · rcases (Resource.mem_described_iff described).mp (LocalAgent.mem_of_mem_pending written) with
        ⟨otherMember, _, rfl⟩
      rcases Resource.key_tuple_eq_iff.mp same with ⟨_, rfl⟩
      exact mem

end Backed

/-- After members are unassigned all rows have their tuples exactly if none of them stood under the
other kind as well. -/
theorem bound_unassign_iff (bound : Bound policies groups)
    (unassigned : groups.unassign groupId resource.kind memberIds = .ok after)
    (described : (memberIds.map (membershipPolicy groupId relation resource.kind)).mapM
      RelationTuple.ofRequest = .ok tuples) :
    Bound (policies.delete tuples) after ↔
      ¬∃ memberId ∈ memberIds, memberId ∈ groups.memberIds groupId resource.other.kind := by
  constructor
  · rintro boundAfter ⟨memberId, among, stands⟩
    have stays : memberId ∈ after.memberIds groupId resource.other.kind := by
      refine (GroupStore.mem_memberIds_unassign unassigned).mpr ⟨stands, ?_⟩
      rintro ⟨⟨_, kinds⟩, _⟩
      exact Resource.other_ne (Resource.kind_eq_iff.mp kinds)
    have kept := TupleStore.mem_tuples_delete.mp (boundAfter _ _ _ stays)
    exact kept.2 _ ((Resource.mem_described_iff described).mpr ⟨memberId, among, rfl⟩)
      (Resource.key_tuple_eq_iff.mpr ⟨rfl, rfl⟩)
  · intro single another otherId memberId row
    rcases (GroupStore.mem_memberIds_unassign unassigned).mp row with ⟨old, notTaken⟩
    refine TupleStore.mem_tuples_delete.mpr ⟨bound another otherId memberId old, ?_⟩
    intro tuple mem same
    rcases (Resource.mem_described_iff described).mp mem with ⟨otherMember, among, rfl⟩
    rcases Resource.key_tuple_eq_iff.mp same with ⟨rfl, rfl⟩
    rcases Resource.eq_or_eq_other resource another with rfl | rfl
    · exact notTaken ⟨⟨rfl, rfl⟩, among⟩
    · exact single ⟨memberId, among, old⟩

/-! ### What is listed -/

/-- A group is listed with the resources of a kind whose tuples are stored. -/
theorem perform_listing {stores : Stores TupleStore}
    (backed : Backed stores.policies stores.groups) (addressable : stores.policies.Addressable)
    (numbered : Nat → String) (config : TokenConfig) (resource : Resource) (named : groupId ≠ "") :
    ∃ page, ((inMemoryServices numbered config).listAllObjects
        (resource.listing groupId)).perform stores = (.ok page, stores) ∧
      ∀ memberId, memberId ∈ page.policies ↔
        resource.tuple groupId memberId ∈ stores.policies.tuples := by
  have held := perform_listedTuples numbered config stores addressable .objects
    (resource.listing groupId)
  rw [TupleFilter.selectedBy, Resource.objectsOf_listing named] at held
  refine ⟨_, Action.perform_bind_ok held, fun memberId => ?_⟩
  simp only [idsPage, shownId, wholePage, List.mem_map, TupleStore.mem_matching_iff]
  constructor
  · rintro ⟨tuple, ⟨stored, admitted⟩, rfl⟩
    simp only [TupleFilter.admitsTuple, Bool.and_eq_true, TupleFilter.admits_some_iff] at admitted
    rcases admitted with ⟨⟨⟨⟨⟨-, typed⟩, -⟩, related⟩, -⟩, subject⟩
    rcases backed.backed tuple stored related with ⟨another, otherId, otherMember, _, rfl⟩
    obtain rfl : another = resource := Resource.type_eq_iff.mp typed
    obtain rfl : otherId = groupId := Subject.parse_injective subject
    exact stored
  · intro stored
    refine ⟨_, ⟨stored, ?_⟩, rfl⟩
    simp only [TupleFilter.admitsTuple, Bool.and_eq_true, TupleFilter.admits_some_iff,
      TupleFilter.admits_none]
    refine ⟨⟨⟨⟨⟨trivial, rfl⟩, trivial⟩, rfl⟩, ?_⟩, rfl⟩
    rcases subject : Subject.parse groupId with name | holders
    · simp [Resource.tuple, subject, Subject.isSet]
    · simp [Subject.isSet]

end RelationAuth.Service
