import RelationAuth.Proofs.Service.GroupAuthority
import RelationAuth.Proofs.Service.GroupStates

/-!
# What removing a group leaves

A removal looks for the tuples on a removed group, for those whose subject it is, and for those whose
subject is the set of the holders of a known relation on it.  It misses the sets of other relations,
which can be granted like any other.  So these grants, and no others, are left to name a group that
is gone.
-/

namespace RelationAuth.Policy

variable {entityType id : String} {tuple : RelationTuple}

/-- Whether a tuple names an entity: as its object, as its subject, or by the set that is its
subject. -/
def RelationTuple.Names (entityType id : String) (tuple : RelationTuple) : Prop :=
  tuple.objectType = entityType ∧ tuple.object = id ∨
    tuple.subjectType = entityType ∧ tuple.subject = .id id ∨
    ∃ relation, tuple.subject = .set { namespaceName := entityType, object := id, relation }

/-- Whether the removal of an entity looks for a tuple. -/
def RelationTuple.Sought (entityType id : String) (tuple : RelationTuple) : Prop :=
  tuple.subjectType = entityType ∧ tuple.subject = .id id ∨
    tuple.objectType = entityType ∧ tuple.object = id ∨
    ∃ relation ∈ subjectSetRelations,
      tuple.subject = .set { namespaceName := entityType, object := id, relation }

/-- A tuple names an entity if the deletion looks for it, or if its subject is a set of the entity
under an unknown relation. -/
theorem RelationTuple.names_iff :
    tuple.Names entityType id ↔ tuple.Sought entityType id ∨
      ∃ relation, relation ∉ subjectSetRelations ∧
        tuple.subject = .set { namespaceName := entityType, object := id, relation } := by
  constructor
  · rintro (object | subject | ⟨relation, named⟩)
    · exact .inl (.inr (.inl object))
    · exact .inl (.inl subject)
    · by_cases known : relation ∈ subjectSetRelations
      · exact .inl (.inr (.inr ⟨relation, known, named⟩))
      · exact .inr ⟨relation, known, named⟩
  · rintro ((subject | object | ⟨relation, _, named⟩) | ⟨relation, _, named⟩)
    · exact .inr (.inl subject)
    · exact .inl object
    · exact .inr (.inr ⟨relation, named⟩)
    · exact .inr (.inr ⟨relation, named⟩)

namespace TupleStore

variable {store : TupleStore} {ids : List String}

/-- Deleting stored tuples takes these and no others. -/
theorem Unrepeated.mem_delete_iff (unrepeated : store.Unrepeated) {deleted : List RelationTuple}
    (stored : ∀ other ∈ deleted, other ∈ store.tuples) :
    tuple ∈ (store.delete deleted).tuples ↔ tuple ∈ store.tuples ∧ tuple ∉ deleted := by
  rw [mem_tuples_delete]
  refine and_congr_right fun mem => ?_
  constructor
  · intro kept among
    exact kept tuple among rfl
  · -- A deletion goes by keys, and no other tuple has the key of a stored one.
    intro kept other among same
    exact kept (unrepeated.eq_of_key_eq mem (stored other among) same ▸ among)

/-- A sweep leaves the tuples that are sought for none of its entities. -/
theorem Unrepeated.mem_sweep_iff (unrepeated : store.Unrepeated) :
    tuple ∈ (store.sweep entityType ids).tuples ↔
      tuple ∈ store.tuples ∧ ∀ id ∈ ids, ¬tuple.Sought entityType id := by
  induction ids generalizing store with
  | nil => simp [sweep]
  | cons id rest ih =>
    have listed : ∀ other ∈ store.naming entityType id, other ∈ store.tuples :=
      fun other mem => (mem_naming_iff.mp mem).1
    have first : tuple ∈ (store.delete (store.naming entityType id)).tuples ↔
        tuple ∈ store.tuples ∧ ¬tuple.Sought entityType id := by
      rw [unrepeated.mem_delete_iff listed, mem_naming_iff]
      exact and_congr_right fun mem => not_congr (and_iff_right mem)
    have step : store.sweep entityType (id :: rest) =
        (store.delete (store.naming entityType id)).sweep entityType rest := rfl
    rw [step, ih (unrepeated.delete _), first, List.forall_mem_cons, and_assoc]

end TupleStore

end RelationAuth.Policy

namespace RelationAuth.Service

open Groups Identity Policy

/-- Whether a group is stored before an operation and not after it. -/
def Stores.Loses (before after : Stores TupleStore) (id : String) : Prop :=
  (∃ group, before.groups.groups.find? id = some group) ∧ after.groups.groups.find? id = none

variable {numbered : Nat → String} {config : TokenConfig} {now : Instant} {token id : String}
  {stores after : Stores TupleStore}

/-- A removal loses all that points to the group, and leaves the tuples that are sought for no lost
group. -/
theorem WellGrouped.of_removeGroup (wellGrouped : WellGrouped numbered stores.groups stores.ids)
    (addressable : stores.policies.Addressable) (unrepeated : stores.policies.Unrepeated)
    (removed : ((inMemoryServices numbered config).removeGroup now token id).perform stores =
      (.ok (), after)) :
    (∀ lower, Relation.ReflTransGen stores.groups.PointsTo lower id → stores.Loses after lower) ∧
      ∀ tuple, tuple ∈ after.policies.tuples ↔
        tuple ∈ stores.policies.tuples ∧
          ∀ lost, stores.Loses after lost → ¬tuple.Sought groupType lost := by
  have outcome := wellGrouped.removal addressable config now token id
  rw [removed] at outcome
  cases outcome with
  | removed parsed allowed listed deleted =>
    have hierarchy := wellGrouped.hierarchy
    refine ⟨fun lower descends => hierarchy.lost_of_descendant deleted descends, ?_⟩
    intro tuple
    -- The groups that are swept are the lost ones.
    refine unrepeated.mem_sweep_iff.trans (and_congr_right fun _ => forall_congr' fun lost => ?_)
    exact imp_congr_left (hierarchy.mem_removed_iff listed deleted)

/-- After a removal that succeeds, the group and its descendants are lost, and a tuple can name a
lost group only by the set of an unknown relation.  Nothing names a lost group exactly if every grant
to a set of its holders was of a known relation, or on a group that is lost too. -/
theorem removal_leaves_unknown_sets (grown : Grown numbered config stores)
    (reachable : stores.policies.Reachable) (addressable : stores.policies.Addressable)
    (removed : ((inMemoryServices numbered config).removeGroup now token id).perform stores =
      (.ok (), after)) :
    (∀ lower, Relation.ReflTransGen stores.groups.PointsTo lower id → stores.Loses after lower) ∧
    (∀ lost, stores.Loses after lost → ∀ tuple ∈ after.policies.tuples,
      tuple.Names groupType lost → ∃ relation, relation ∉ subjectSetRelations ∧
        tuple.subject = .set { namespaceName := groupType, object := lost, relation }) ∧
    ((∀ lost, stores.Loses after lost → ∀ tuple ∈ after.policies.tuples,
        ¬tuple.Names groupType lost) ↔
      ∀ lost, stores.Loses after lost → ∀ tuple ∈ stores.policies.tuples, ∀ relation,
        tuple.subject = .set { namespaceName := groupType, object := lost, relation } →
          relation ∈ subjectSetRelations ∨
            tuple.objectType = groupType ∧ stores.Loses after tuple.object) := by
  rcases grown.wellGrouped.of_removeGroup addressable reachable.unrepeated removed with
    ⟨descendants, remains⟩
  have unknown : ∀ lost, stores.Loses after lost → ∀ tuple ∈ after.policies.tuples,
      tuple.Names groupType lost → ∃ relation, relation ∉ subjectSetRelations ∧
        tuple.subject = .set { namespaceName := groupType, object := lost, relation } := by
    intro lost isLost tuple mem names
    exact (RelationTuple.names_iff.mp names).resolve_left (((remains tuple).mp mem).2 lost isLost)
  refine ⟨descendants, unknown, ?_, ?_⟩
  · -- A grant to a set of an unknown relation would be left, unless it is on a lost group itself.
    intro unnamed lost isLost tuple stored relation named
    by_contra neither
    rw [not_or] at neither
    have mem : tuple ∈ after.policies.tuples := by
      refine (remains tuple).mpr ⟨stored, ?_⟩
      rintro other alsoLost (⟨_, plain⟩ | ⟨typed, object⟩ | ⟨known, among, set⟩)
      · cases named.symm.trans plain
      · exact neither.2 ⟨typed, object ▸ alsoLost⟩
      · cases named.symm.trans set
        exact neither.1 among
    exact unnamed lost isLost tuple mem (.inr (.inr ⟨relation, named⟩))
  · intro known lost isLost tuple mem names
    rcases unknown lost isLost tuple mem names with ⟨relation, notKnown, named⟩
    rcases (remains tuple).mp mem with ⟨stored, notSought⟩
    rcases known lost isLost tuple stored relation named with among | ⟨typed, objectLost⟩
    · exact notKnown among
    · exact notSought _ objectLost (.inr (.inl ⟨typed, rfl⟩))

/-! ### Auditors -/

/-- The grant that lets the auditors of the root view a thing. -/
def auditorTuple : RelationTuple :=
  { namespaceName := ""
    objectType := thingType
    object := "t1"
    relation := viewerRelation
    subjectType := groupType
    subject := .set { namespaceName := groupType, object := "n", relation := "auditor" } }

/-- The request for this grant, with the set as its text. -/
def auditorRequest : PolicyRequest :=
  { subject := "group:n#auditor"
    relation := viewerRelation
    objectType := thingType
    object := "t1" }

/-- The stores after the root is created and its auditors may view the thing. -/
def auditedStores : Stores TupleStore :=
  rootStores.withPolicies (rootStores.policies.write [auditorTuple])

/-- What is left of the stores when the root is removed. -/
def auditedRemains : Stores TupleStore :=
  { policies := auditedStores.policies.sweep groupType ["n"]
    groups := GroupStore.empty
    ids := { asked := 1 } }

theorem grown_auditedStores : Grown tally plainConfig auditedStores :=
  reached_rootStores.grown.others _ _ _ reached_rootStores.grown.wellGrouped.principals

theorem perform_addPolicies_auditors :
    ((inMemoryServices tally plainConfig).addPolicies [auditorRequest]).perform rootStores =
      (.ok (), auditedStores) := by
  have described : [auditorRequest].mapM RelationTuple.ofRequest = .ok [auditorTuple] := by
    decide +kernel
  have pending : LocalAgent.pending rootStores.policies .groupsSchema [auditorTuple] =
      [auditorTuple] := by
    decide +kernel
  rw [perform_addPolicies _ _ _ (by decide), described]
  simp only [pending]
  rfl

theorem perform_removeGroup_auditedStores :
    ((inMemoryServices tally plainConfig).removeGroup dawn aliceToken "n").perform auditedStores =
      (.ok (), auditedRemains) := by
  have authorized := perform_authorizeOnGroup_of_access tally plainConfig dawn aliceToken
    auditedStores parse_aliceToken rfl (rfl : auditedStores.Allows "alice" deletePermission "n")
  have listed : auditedStores.groups.children "n" maxLevel = .ok [] :=
    GroupStore.children_eq_ok_iff.mpr ⟨by decide, rootGroup, rfl, by decide +kernel⟩
  have deleted : auditedStores.groups.delete "n" = .ok GroupStore.empty := rfl
  have wellGrouped := grown_auditedStores.wellGrouped
  refine perform_removeGroup tally plainConfig dawn aliceToken auditedStores (by decide) ?_ "n"
    authorized listed deleted
  intro other group found
  exact ⟨wellGrouped.hierarchy.keyed other group found, wellGrouped.named other group found⟩

/-- The grant to the auditors of the root outlives the root. -/
theorem left_naming_the_root :
    Grown tally plainConfig rootStores ∧
      ((inMemoryServices tally plainConfig).addPolicies [auditorRequest]).perform rootStores =
        (.ok (), auditedStores) ∧
      ((inMemoryServices tally plainConfig).removeGroup dawn aliceToken "n").perform auditedStores =
        (.ok (), auditedRemains) ∧
      auditedStores.Loses auditedRemains "n" ∧
      auditorTuple ∈ auditedRemains.policies.tuples ∧ auditorTuple.Names groupType "n" :=
  ⟨reached_rootStores.grown, perform_addPolicies_auditors, perform_removeGroup_auditedStores,
    ⟨⟨rootGroup, rfl⟩, rfl⟩, by decide +kernel, .inr (.inr ⟨"auditor", rfl⟩)⟩

/-- After the removal of the root, what still names it is the grant to its auditors. -/
theorem removal_leaves_unknown_sets_auditedStores :
    (Grown tally plainConfig auditedStores ∧ auditedStores.policies.Reachable ∧
        auditedStores.policies.Addressable) ∧
      auditedStores.Loses auditedRemains "n" ∧
      ∀ tuple ∈ auditedRemains.policies.tuples, tuple.Names groupType "n" →
        ∃ relation, relation ∉ subjectSetRelations ∧
          tuple.subject = .set { namespaceName := groupType, object := "n", relation } := by
  have reachable : auditedStores.policies.Reachable := .write (.write .empty _) _
  have addressable : auditedStores.policies.Addressable := by decide
  have left := removal_leaves_unknown_sets grown_auditedStores reachable addressable
    perform_removeGroup_auditedStores
  have lost := left.1 "n" .refl
  exact ⟨⟨grown_auditedStores, reachable, addressable⟩, lost, left.2.1 "n" lost⟩

end RelationAuth.Service
