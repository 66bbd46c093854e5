import RelationAuth.Proofs.Policy.Adding

/-!
# Grants that outlast deletions

A request that is added is granted then, but nothing is written for it if it is granted already, be
it through a set or a parent.  Such a grant goes with the tuples that it rests on.  What outlasts
every deletion of other tuples is the tuple of the request itself.
-/

namespace RelationAuth.Policy.LocalAgent

variable {store after : TupleStore} {schema : PermissionSchema} {request : PolicyRequest}
  {tuple : RelationTuple}

/-- What is stored is granted. -/
theorem check_of_stores (described : RelationTuple.ofRequest request = .ok tuple)
    (stored : store.Stores tuple.key) :
    ((agent TupleRepository.inMemory schema).check request).perform store = (.ok (), store) := by
  have valid := PolicyRequest.validateCheck_of_validateWrite
    (RelationTuple.ofRequest_eq_ok_iff.mp described).1
  have granted : Policy.check (TupleRepository.inMemory.reader store) schema request.subjectRef
      request.goal = .ok true := by
    rw [RelationTuple.goal_of_ofRequest described, ← RelationTuple.subject_of_ofRequest described]
    exact TupleStore.check_of_direct (RelationTuple.direct_of_stores stored)
  simp only [agent, Action.perform_query, answer, valid, granted, bind, Except.bind]
  rfl

/-- A check finds nothing in a store without tuples. -/
theorem check_ne_ok_of_no_tuples (described : RelationTuple.ofRequest request = .ok tuple)
    (none : store.tuples = []) :
    ((agent TupleRepository.inMemory schema).check request).perform store ≠ (.ok (), store) := by
  have addressable : store.Addressable := by
    simp [TupleStore.Addressable, TupleStore.size, none, word64Bound]
  rw [ne_eq, perform_check_iff_granted addressable described]
  intro granted
  rcases TupleStore.chain_of_check addressable granted with ⟨_, _, _, ⟨_, _, other, mem, _⟩, _⟩
  simp [none] at mem

theorem perform_isSatisfied_leaves (store : TupleStore) (schema : PermissionSchema)
    (tuple : RelationTuple) :
    (((agent TupleRepository.inMemory schema).isSatisfied tuple).perform store).2 = store := by
  rw [PolicyAgent.perform_isSatisfied]
  simp [agent]

theorem perform_write (written : List RelationTuple) :
    ((agent TupleRepository.inMemory schema).write written).perform store =
      (.ok (), store.write written) :=
  rfl

theorem perform_delete (deleted : List RelationTuple) :
    ((agent TupleRepository.inMemory schema).delete deleted).perform store =
      (.ok (), store.delete deleted) :=
  rfl

/-- What adding a request does: nothing if its probe succeeds, and else its tuple is written. -/
theorem after_add
    (added : ((agent TupleRepository.inMemory schema).add request).perform store =
      (.ok (), after)) :
    ∃ tuple, RelationTuple.ofRequest request = .ok tuple ∧
      (((agent TupleRepository.inMemory schema).isSatisfied tuple).perform store =
          (.ok true, store) ∧ after = store ∨
        ((agent TupleRepository.inMemory schema).isSatisfied tuple).perform store =
          (.ok false, store) ∧ after = store.write [tuple]) := by
  rcases described : RelationTuple.ofRequest request with cause | tuple
  · simp [PolicyAgent.add, Action.perform_bind, described] at added
  have leaves := perform_isSatisfied_leaves store schema tuple
  rcases probe : ((agent TupleRepository.inMemory schema).isSatisfied tuple).perform store with
    ⟨stop | satisfied, left⟩
  · simp [PolicyAgent.add, Action.perform_bind, described, probe] at added
  obtain rfl : left = store := by rwa [probe] at leaves
  refine ⟨tuple, rfl, ?_⟩
  cases satisfied with
  | true =>
    simp [PolicyAgent.add, Action.perform_bind, described, probe] at added
    exact .inl ⟨probe, added.symm⟩
  | false =>
    simp [PolicyAgent.add, Action.perform_bind, described, probe, perform_write] at added
    exact .inr ⟨probe, added.symm⟩

/-- An addition that succeeds leaves the tuple stored exactly if it was, or if the probe refused
it. -/
theorem stores_after_add_iff
    (added : ((agent TupleRepository.inMemory schema).add request).perform store =
      (.ok (), after))
    (described : RelationTuple.ofRequest request = .ok tuple) :
    after.Stores tuple.key ↔
      store.Stores tuple.key ∨
        ((agent TupleRepository.inMemory schema).isSatisfied tuple).perform store =
          (.ok false, store) := by
  rcases after_add added with ⟨same, describedToo, ⟨probe, rfl⟩ | ⟨probe, rfl⟩⟩
  all_goals
    obtain rfl : tuple = same := Except.ok.inj (described.symm.trans describedToo)
    rw [probe]
  · simp
  · simp [TupleStore.stores_write]

/-- Which added requests outlast deletions.  After a request is added, it is granted whatever tuples
with other keys are deleted, exactly if its tuple was stored before or the probe of the request was
denied, so that its tuple was written. -/
theorem outlasts_deletions_iff (store after : TupleStore) (schema : PermissionSchema)
    (request : PolicyRequest)
    (added : ((agent TupleRepository.inMemory schema).add request).perform store =
      (.ok (), after)) :
    ∃ tuple, RelationTuple.ofRequest request = .ok tuple ∧
      ((∀ deleted : List RelationTuple, (∀ other ∈ deleted, other.key ≠ tuple.key) →
          (do
            (agent TupleRepository.inMemory schema).delete deleted
            (agent TupleRepository.inMemory schema).check request).perform after =
              (.ok (), after.delete deleted)) ↔
        store.Stores tuple.key ∨
          ((agent TupleRepository.inMemory schema).isSatisfied tuple).perform store =
            (.ok false, store)) := by
  rcases after_add added with ⟨tuple, described, -⟩
  refine ⟨tuple, described, ?_⟩
  rw [← stores_after_add_iff added described]
  constructor
  · intro lasting
    by_contra absent
    -- All other tuples are all tuples, when the one of the request is not stored.
    have others : ∀ other ∈ after.tuples, other.key ≠ tuple.key :=
      fun other mem same => absent ⟨other, mem, same⟩
    have emptied : (after.delete after.tuples).tuples = [] := by
      rw [List.eq_nil_iff_forall_not_mem]
      intro other mem
      rw [TupleStore.mem_tuples_delete] at mem
      exact mem.2 other mem.1 rfl
    have granted := lasting after.tuples others
    rw [Action.perform_bind_ok (perform_delete after.tuples)] at granted
    exact check_ne_ok_of_no_tuples described emptied granted
  · intro stored deleted others
    rw [Action.perform_bind_ok (perform_delete deleted)]
    exact check_of_stores described (TupleStore.stores_delete.mpr
      ⟨stored, fun other mem same => others other mem same.symm⟩)

/-- An addition writes its tuple unless the probe is satisfied. -/
theorem perform_add (schema : PermissionSchema) (addressable : store.Addressable)
    (described : RelationTuple.ofRequest request = .ok tuple) :
    ((agent TupleRepository.inMemory schema).add request).perform store =
      (.ok (), if store.satisfies schema tuple then store else store.write [tuple]) := by
  have probe : ((agent TupleRepository.inMemory schema).isSatisfied tuple).perform store = _ :=
    perform_isSatisfied addressable described
  cases satisfied : store.satisfies schema tuple <;>
    simp [PolicyAgent.add, Action.perform_bind, described, probe, satisfied, perform_write]

/-- The tuple that makes bob a member of the team. -/
def bobInTeam : RelationTuple :=
  ⟨"", groupType, "team", memberRelation, userType, .id "bob"⟩

/-- The grant of carol, who is not in the team, outlasts the end of the team. -/
theorem outlasts_deletions_carol :
    (inMemory.add (viewerRequest "carol")).perform teamOfViewers =
        (.ok (), teamOfViewers.write [viewerTuple "carol"]) ∧
      ∀ deleted : List RelationTuple, (∀ other ∈ deleted, other.key ≠ (viewerTuple "carol").key) →
        (do
          inMemory.delete deleted
          inMemory.check (viewerRequest "carol")).perform
            (teamOfViewers.write [viewerTuple "carol"]) =
              (.ok (), (teamOfViewers.write [viewerTuple "carol"]).delete deleted) := by
  have addressable : teamOfViewers.Addressable := by decide
  have described : RelationTuple.ofRequest (viewerRequest "carol") = .ok (viewerTuple "carol") := by
    rfl
  have unsatisfied : teamOfViewers.satisfies .groupsSchema (viewerTuple "carol") = false := by
    decide +kernel
  have probe : (inMemory.isSatisfied (viewerTuple "carol")).perform teamOfViewers = _ :=
    perform_isSatisfied addressable described
  have added := perform_add .groupsSchema addressable described
  rw [unsatisfied] at probe added
  rcases outlasts_deletions_iff _ _ _ _ added with ⟨tuple, same, lasting⟩
  obtain rfl : viewerTuple "carol" = tuple := Except.ok.inj (described.symm.trans same)
  exact ⟨added, lasting.mpr (.inr probe)⟩

/-- A request for bob is added while bob is in the team.  When bob leaves the team, it is denied. -/
theorem added_then_lost_bob :
    (inMemory.add (viewerRequest "bob")).perform teamOfViewers = (.ok (), teamOfViewers) ∧
      bobInTeam.key ≠ (viewerTuple "bob").key ∧
      (do
        inMemory.delete [bobInTeam]
        inMemory.check (viewerRequest "bob")).perform teamOfViewers =
          (.error (.failure .unauthorized), teamOfViewers.delete [bobInTeam]) := by
  have addressable : teamOfViewers.Addressable := by decide
  have described : RelationTuple.ofRequest (viewerRequest "bob") = .ok (viewerTuple "bob") := by
    rfl
  have satisfied : teamOfViewers.satisfies .groupsSchema (viewerTuple "bob") = true := by
    decide +kernel
  have added := perform_add .groupsSchema addressable described
  rw [satisfied] at added
  refine ⟨added, by decide, ?_⟩
  have addressableAfter : (teamOfViewers.delete [bobInTeam]).Addressable := by decide
  have denied : ((teamOfViewers.delete [bobInTeam]).searchGoals .groupsSchema
      (viewerRequest "bob").subjectRef (viewerRequest "bob").goal).1 = false := by
    decide +kernel
  rw [inMemory, Action.perform_bind_ok (perform_delete [bobInTeam]),
    perform_check addressableAfter (by decide), denied]
  rfl

end RelationAuth.Policy.LocalAgent
