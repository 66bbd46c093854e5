import RelationAuth.Proofs.Service.Leftovers

/-!
# Deleting an entity

An entity is deleted by the listings that its name selects, and then by the keys of what is listed.
Keys leave out the types, but no two stored tuples have one key; so a deletion takes away what was
listed and nothing beside it, in however many pages the listings come.
-/

namespace RelationAuth.Policy

variable {store : TupleStore} {entityType id : String} {tuple : RelationTuple}

instance : Decidable (tuple.Sought entityType id) :=
  inferInstanceAs (Decidable (_ ∨ _ ∨ _))

namespace TupleStore

/-- What a deletion of stored tuples leaves keeps its order. -/
theorem Unrepeated.tuples_delete (unrepeated : store.Unrepeated) {deleted : List RelationTuple}
    (stored : ∀ other ∈ deleted, other ∈ store.tuples) :
    (store.delete deleted).tuples = store.tuples.filter (· ∉ deleted) := by
  have members : ∀ tuple, tuple ∈ (store.delete deleted).tuples ↔
      tuple ∈ store.tuples.filter (· ∉ deleted) := by
    intro tuple
    rw [unrepeated.mem_delete_iff stored]
    simp
  have within : (store.delete deleted).tuples.Sublist (store.tuples.filter (· ∉ deleted)) := by
    rw [List.sublist_filter_iff]
    refine ⟨_, tuples_delete_sublist, (List.filter_eq_self.mpr ?_).symm⟩
    intro tuple mem
    exact (List.mem_filter.mp ((members tuple).mp mem)).2
  apply within.eq_of_length
  apply List.Perm.length_eq
  rw [List.perm_ext_iff_of_nodup (unrepeated.delete deleted).nodup_tuples
    (unrepeated.nodup_tuples.filter _)]
  exact members

/-- Deleting what names an entity leaves the tuples that are not sought for it, in their order. -/
theorem Unrepeated.tuples_delete_naming (unrepeated : store.Unrepeated) :
    (store.delete (store.naming entityType id)).tuples =
      store.tuples.filter fun tuple => ¬tuple.Sought entityType id := by
  rw [unrepeated.tuples_delete fun other mem => (mem_naming_iff.mp mem).1]
  apply List.filter_congr
  intro tuple mem
  have listed : tuple ∈ store.naming entityType id ↔ tuple.Sought entityType id :=
    mem_naming_iff.trans (and_iff_right mem)
  simp [listed]

end TupleStore

end RelationAuth.Policy

namespace RelationAuth.Service

open Identity Policy

/-- Deleting an entity deletes exactly its tuples.  Over every reachable store of policies and with
every schema, the deletion of an entity whose id names no set succeeds.  The tuples on the entity,
the tuples whose subject it is and those whose subject is the set of a known relation on it are
gone, in whatever namespace they stood.  All others stay as they were and in their order, also where
they name the same id under another type. -/
theorem entity_deletion_is_exact (numbered : Nat → String) (config : TokenConfig)
    (schema : PermissionSchema) (stores : Stores TupleStore) {entityType id : String}
    (reachable : stores.policies.Reachable) (addressable : stores.policies.Addressable)
    (typed : entityType ≠ "") (named : id ≠ "") (plain : Subject.parse id = .id id) :
    ∃ after : TupleStore,
      ((servicesOver (LocalAgent.agent TupleRepository.inMemory schema) numbered
          config).deleteEntity entityType id).perform stores =
        (.ok (), stores.withPolicies after) ∧
      after.tuples = stores.policies.tuples.filter fun tuple => ¬tuple.Sought entityType id :=
  ⟨_, perform_deleteEntity_over numbered config stores schema addressable typed named plain,
    reachable.unrepeated.tuples_delete_naming⟩

/-- Tuples that name a group in every way that its deletion looks for, each beside one that it does
not look for: on a thing of the same id, to a user of the same id, and to a set of an unknown
relation. -/
def entangledPolicies : TupleStore :=
  TupleStore.empty.write [
    ⟨"west", groupType, "g", viewerRelation, userType, .id "bob"⟩,
    ⟨"", thingType, "g", viewerRelation, userType, .id "bob"⟩,
    ⟨"", thingType, "t", viewerRelation, groupType, .id "g"⟩,
    ⟨"", thingType, "t", editorRelation, userType, .id "g"⟩,
    ⟨"", thingType, "t", viewerRelation, groupType, .set ⟨groupType, "g", memberRelation⟩⟩,
    ⟨"", thingType, "t", viewerRelation, groupType, .set ⟨groupType, "g", "auditor"⟩⟩]

/-- From tuples that name the group in every way, the deletion leaves those of the same id under
other types and the one of an unknown set. -/
theorem entity_deletion_is_exact_entangledPolicies :
    (entangledPolicies.Reachable ∧ entangledPolicies.Addressable ∧
        Subject.parse "g" = .id "g") ∧
      ∃ after : TupleStore,
        ((servicesOver LocalAgent.inMemory tally plainConfig).deleteEntity groupType "g").perform
            { policies := entangledPolicies } = (.ok (), { policies := after }) ∧
        after.tuples = [
          ⟨"", thingType, "g", viewerRelation, userType, .id "bob"⟩,
          ⟨"", thingType, "t", editorRelation, userType, .id "g"⟩,
          ⟨"", thingType, "t", viewerRelation, groupType, .set ⟨groupType, "g", "auditor"⟩⟩] := by
  have reachable : entangledPolicies.Reachable := .write .empty _
  have addressable : entangledPolicies.Addressable := by decide
  have plain : Subject.parse "g" = .id "g" := by decide
  rcases entity_deletion_is_exact tally plainConfig .groupsSchema { policies := entangledPolicies }
    reachable addressable (by decide : groupType ≠ "") (by decide) plain with
    ⟨after, deleted, left⟩
  refine ⟨⟨reachable, addressable, plain⟩, after, deleted, left.trans ?_⟩
  decide +kernel

end RelationAuth.Service
