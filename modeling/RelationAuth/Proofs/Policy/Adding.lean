import RelationAuth.Proofs.Policy.Granting
import RelationAuth.Proofs.Policy.LocalAgent

/-!
# Checks after requests are added

Adding leaves out a request whose probe succeeds.  The probe asks for the subject that the text of
the subject names, which need not be the subject, and its answer may rest on a chain of goals that
the rest of the batch disturbs.  These theorems say exactly when the requests of a batch are granted
once it is added.
-/

namespace RelationAuth.Policy

/-- Whether the text of the subject of a request names this subject. -/
def PolicyRequest.ReadsBack (request : PolicyRequest) : Prop :=
  Subject.parse request.subjectRef.display = request.subjectRef

instance (request : PolicyRequest) : Decidable request.ReadsBack :=
  inferInstanceAs (Decidable (_ = _))

namespace RelationTuple

variable {request : PolicyRequest} {tuple : RelationTuple}

theorem goal_of_ofRequest (described : ofRequest request = .ok tuple) :
    request.goal = tuple.goal := by
  rw [ofRequest_eq_ok_iff, PolicyRequest.validateWrite_eq_ok_iff] at described
  rcases described with ⟨⟨_, relation⟩, rfl⟩
  simp [PolicyRequest.goal, PolicyRequest.relationOrPermission, goal, relation]

theorem subject_of_ofRequest (described : ofRequest request = .ok tuple) :
    tuple.subject = request.subjectRef := by
  rcases ofRequest_eq_ok_iff.mp described with ⟨_, rfl⟩
  rfl

theorem direct_of_stores {store : TupleStore} {schema : PermissionSchema}
    (stored : store.Stores tuple.key) : tuple.goal.Direct store schema tuple.subject :=
  ⟨tuple.relation, Or.inl rfl, stored⟩

end RelationTuple

namespace LocalAgent

variable {store : TupleStore} {schema : PermissionSchema} {request : PolicyRequest}
  {requests : List PolicyRequest} {tuple : RelationTuple} {after : TupleStore}

/-- A batch that succeeds writes the tuples that its checks refused. -/
theorem after_addMany (addressable : store.Addressable)
    (added : ((agent TupleRepository.inMemory schema).addMany requests).perform store =
      (.ok (), after)) :
    ∃ tuples, requests.mapM RelationTuple.ofRequest = .ok tuples ∧
      after = store.write (pending store schema tuples) := by
  rw [perform_addMany addressable] at added
  rcases described : requests.mapM RelationTuple.ofRequest with cause | tuples
  · simp [described] at added
  · simp only [described, Prod.mk.injEq, true_and] at added
    exact ⟨tuples, rfl, added.symm⟩

theorem stores_of_pending {tuples : List RelationTuple} (mem : tuple ∈ tuples)
    (unsatisfied : store.satisfies schema tuple = false) :
    (store.write (pending store schema tuples)).Stores tuple.key := by
  refine TupleStore.stores_write.mpr (Or.inr ⟨tuple, ?_, rfl⟩)
  simp [pending, mem, unsatisfied]

theorem perform_check_iff_granted (addressable : store.Addressable)
    (described : RelationTuple.ofRequest request = .ok tuple) :
    ((agent TupleRepository.inMemory schema).check request).perform store = (.ok (), store) ↔
      store.check schema request.subjectRef tuple.goal = .ok true := by
  have valid := PolicyRequest.validateCheck_of_validateWrite
    (RelationTuple.ofRequest_eq_ok_iff.mp described).1
  rw [perform_check_eq_ok_iff addressable valid, RelationTuple.goal_of_ofRequest described]

/-- A request whose subject reads back is granted as soon as its tuple is satisfied: the probe and
the check then ask for the same subject. -/
theorem check_of_satisfies (addressable : store.Addressable)
    (described : RelationTuple.ofRequest request = .ok tuple) (readsBack : request.ReadsBack)
    (satisfied : store.satisfies schema tuple = true) :
    store.check schema request.subjectRef tuple.goal = .ok true := by
  have probed : tuple.probedSubject = request.subjectRef := by
    rw [RelationTuple.probedSubject, RelationTuple.subject_of_ofRequest described]
    exact readsBack
  rw [TupleStore.check_eq addressable, ← probed]
  exact congrArg Except.ok satisfied

/-- The store that gives the relation of a tuple only to the subject that its text names. -/
def misread (tuple : RelationTuple) : TupleStore :=
  TupleStore.empty.write [{ tuple with subject := tuple.probedSubject }]

theorem tuples_misread :
    (misread tuple).tuples = [{ tuple with subject := tuple.probedSubject }] :=
  rfl

theorem addressable_misread : (misread tuple).Addressable := by
  simp [TupleStore.Addressable, TupleStore.size, tuples_misread, word64Bound]

/-- The misread tuple satisfies the probe of the tuple itself. -/
theorem satisfies_misread : (misread tuple).satisfies schema tuple = true := by
  have direct : tuple.goal.Direct (misread tuple) schema tuple.probedSubject :=
    ⟨tuple.relation, Or.inl rfl, { tuple with subject := tuple.probedSubject },
      by simp [tuples_misread], rfl⟩
  have granted := TupleStore.check_of_direct direct
  rwa [TupleStore.check_eq addressable_misread, Except.ok.injEq] at granted

/-- In the store that holds the misread tuple alone, the subject itself is granted nothing. -/
theorem not_check_misread (misnamed : tuple.probedSubject ≠ tuple.subject) (start : Goal) :
    (misread tuple).check schema tuple.subject start ≠ .ok true := by
  intro granted
  rcases TupleStore.chain_of_check addressable_misread granted with ⟨_, _, _, ⟨_, _, stored⟩, _⟩
  rcases stored with ⟨other, mem, same⟩
  simp only [tuples_misread, List.mem_singleton] at mem
  subst mem
  exact misnamed (congrArg TupleKey.subject same)

/-- What is granted after a batch is added.  A request of the batch is granted exactly if its probe
failed, so that it was written, or a chain leads from its goal to a direct one past the goals that
its check meets only at its last step.  If its subject reads back, it is granted unless the batch
added tuples and a chain of distinct goals uses up the steps of its check. -/
theorem check_of_addMany_iff (addressable : store.Addressable) (addressableAfter : after.Addressable)
    (added : ((agent TupleRepository.inMemory schema).addMany requests).perform store =
      (.ok (), after))
    (mem : request ∈ requests) :
    ∃ tuple, RelationTuple.ofRequest request = .ok tuple ∧
      (((agent TupleRepository.inMemory schema).check request).perform after = (.ok (), after) ↔
        store.satisfies schema tuple = false ∨
          ∃ rest last, Goal.Chain after schema tuple.goal rest last ∧
            last.Direct after schema request.subjectRef ∧
            ∀ inner ∈ rest.dropLast,
              inner ∉ after.boundaryGoals schema request.subjectRef tuple.goal) ∧
      (request.ReadsBack →
        (after = store ∨
          ∀ others last, Goal.Chain after schema tuple.goal others last →
            (tuple.goal :: others).Nodup → others.length ≠ maxCheckSteps) →
        ((agent TupleRepository.inMemory schema).check request).perform after =
          (.ok (), after)) := by
  rcases after_addMany addressable added with ⟨tuples, described, rfl⟩
  rcases (RelationTuple.of_mapM_eq_ok described).1 request mem with ⟨tuple, among, single⟩
  have written : store.satisfies schema tuple = false →
      (store.write (pending store schema tuples)).check schema request.subjectRef tuple.goal =
        .ok true := by
    intro unsatisfied
    rw [← RelationTuple.subject_of_ofRequest single]
    exact TupleStore.check_of_direct
      (RelationTuple.direct_of_stores (stores_of_pending among unsatisfied))
  rw [perform_check_iff_granted addressableAfter single]
  refine ⟨tuple, single, ⟨?_, ?_⟩, ?_⟩
  · intro granted
    exact Or.inr ((TupleStore.check_iff_chain_off_boundary addressableAfter).mp granted)
  · rintro (unsatisfied | chain)
    · exact written unsatisfied
    · exact (TupleStore.check_iff_chain_off_boundary addressableAfter).mpr chain
  · intro readsBack undisturbed
    rcases satisfied : store.satisfies schema tuple with _ | _
    · exact written satisfied
    have before := check_of_satisfies addressable single readsBack satisfied
    rcases undisturbed with same | shallow
    · rwa [same]
    · rcases TupleStore.chain_of_check addressable before with ⟨rest, last, chain, direct, _⟩
      exact TupleStore.check_write_of_chain addressableAfter chain direct
        fun inner _ others usedUp nodup => shallow others inner usedUp nodup

/-- A request that is already satisfied is not written. -/
theorem perform_addMany_of_satisfies (addressable : store.Addressable)
    (described : RelationTuple.ofRequest request = .ok tuple)
    (satisfied : store.satisfies schema tuple = true) :
    ((agent TupleRepository.inMemory schema).addMany [request]).perform store = (.ok (), store) := by
  have single : [request].mapM RelationTuple.ofRequest = .ok [tuple] := by
    simp [List.mapM_cons, described, bind, Except.bind, pure, Except.pure]
  have nothing : pending store schema [tuple] = [] := by
    simp [pending, satisfied]
  simp only [perform_addMany addressable, single, nothing]
  rfl

/-- A single request is granted in every store to which it is added, exactly if its subject reads
back. -/
theorem check_of_add_iff_readsBack (described : RelationTuple.ofRequest request = .ok tuple) :
    (∀ store after : TupleStore, store.Addressable → after.Addressable →
        ((agent TupleRepository.inMemory schema).addMany [request]).perform store = (.ok (), after) →
        ((agent TupleRepository.inMemory schema).check request).perform after = (.ok (), after)) ↔
      request.ReadsBack := by
  constructor
  · intro consistent
    by_contra misnamed
    rw [PolicyRequest.ReadsBack, ← RelationTuple.subject_of_ofRequest described] at misnamed
    have granted := consistent _ _ addressable_misread addressable_misread
      (perform_addMany_of_satisfies addressable_misread described satisfies_misread)
    rw [perform_check_iff_granted addressable_misread described,
      ← RelationTuple.subject_of_ofRequest described] at granted
    exact not_check_misread misnamed _ granted
  · intro readsBack store after addressable addressableAfter added
    rcases check_of_addMany_iff addressable addressableAfter added List.mem_cons_self with
      ⟨same, describedToo, whenGranted, undisturbed⟩
    obtain rfl : same = tuple := by
      rw [described] at describedToo
      exact (Except.ok.inj describedToo).symm
    rcases satisfied : store.satisfies schema same with _ | _
    · exact whenGranted.mpr (Or.inl satisfied)
    · rw [perform_addMany_of_satisfies addressable described satisfied] at added
      exact undisturbed readsBack (Or.inl (Prod.mk.inj added).2.symm)

/-- When all that is added is granted.  After a batch its requests are all granted exactly if each was
written, its probe having failed, or has a chain from its goal to a direct one past the goals that
its check meets only at its last step; and where no tuples were written, or no chain of distinct
goals uses up the steps of a check, every request whose subject reads back is granted.  Added by
itself, a request is granted whatever the store holds exactly if its subject reads back. -/
theorem checks_after_adding_iff (requests : List PolicyRequest) (store after : TupleStore)
    (addressable : store.Addressable) (addressableAfter : after.Addressable)
    (added : (inMemory.addMany requests).perform store = (.ok (), after)) :
    ((∀ request ∈ requests, (inMemory.check request).perform after = (.ok (), after)) ↔
      ∀ request ∈ requests, ∀ tuple, RelationTuple.ofRequest request = .ok tuple →
        store.satisfies .groupsSchema tuple = false ∨
          ∃ rest last, Goal.Chain after .groupsSchema tuple.goal rest last ∧
            last.Direct after .groupsSchema request.subjectRef ∧
            ∀ inner ∈ rest.dropLast,
              inner ∉ after.boundaryGoals .groupsSchema request.subjectRef tuple.goal) ∧
    (∀ request ∈ requests, request.ReadsBack →
      (after = store ∨
        ∀ others last, Goal.Chain after .groupsSchema request.goal others last →
          (request.goal :: others).Nodup → others.length ≠ 10) →
      (inMemory.check request).perform after = (.ok (), after)) ∧
    ∀ request ∈ requests,
      (∀ earlier later : TupleStore, earlier.Addressable → later.Addressable →
          (inMemory.addMany [request]).perform earlier = (.ok (), later) →
          (inMemory.check request).perform later = (.ok (), later)) ↔
        request.ReadsBack := by
  have each : ∀ request ∈ requests, _ := fun request mem =>
    check_of_addMany_iff addressable addressableAfter added mem
  refine ⟨⟨?_, ?_⟩, ?_, ?_⟩
  · intro granted request mem tuple described
    rcases each request mem with ⟨same, describedToo, whenGranted, _⟩
    obtain rfl : tuple = same := Except.ok.inj (described.symm.trans describedToo)
    exact whenGranted.mp (granted request mem)
  · intro conditions request mem
    rcases each request mem with ⟨tuple, described, whenGranted, _⟩
    exact whenGranted.mpr (conditions request mem tuple described)
  · intro request mem readsBack undisturbed
    rcases each request mem with ⟨tuple, described, _, granted⟩
    rw [RelationTuple.goal_of_ofRequest described] at undisturbed
    exact granted readsBack undisturbed
  · intro request mem
    rcases each request mem with ⟨tuple, described, _⟩
    exact check_of_add_iff_readsBack described

/-- A request whose subject, of a type with a colon, does not read back. -/
def misnamedRequest : PolicyRequest :=
  { subjectType := "x:y"
    subject := "o"
    subjectRelation := "r"
    relation := viewerRelation
    objectType := groupType
    object := "g" }

/-- The tuple of the request whose subject does not read back. -/
def misnamedTuple : RelationTuple :=
  ⟨"", groupType, "g", viewerRelation, "x:y", .set ⟨"x:y", "o", "r"⟩⟩

/-- A request that is added and then denied: the probe takes its subject for another, which is a
viewer already. -/
theorem added_then_denied_misnamedRequest :
    (inMemory.addMany [misnamedRequest]).perform (misread misnamedTuple) =
        (.ok (), misread misnamedTuple) ∧
      (inMemory.check misnamedRequest).perform (misread misnamedTuple) =
        (.error (.failure .unauthorized), misread misnamedTuple) := by
  have described : RelationTuple.ofRequest misnamedRequest = .ok misnamedTuple :=
    RelationTuple.ofRequest_eq_ok_iff.mpr ⟨by decide, by decide⟩
  have denied : (misread misnamedTuple).check .groupsSchema misnamedTuple.subject
      misnamedTuple.goal ≠ .ok true := not_check_misread (by decide) _
  exact ⟨perform_addMany_of_satisfies addressable_misread described satisfies_misread,
    perform_check_of_denied addressable_misread (by decide) denied⟩

/-- The members of a team view a group, and one of them is bob. -/
def teamOfViewers : TupleStore :=
  TupleStore.empty.write [
    ⟨"", groupType, "g", viewerRelation, groupType, .set ⟨groupType, "team", memberRelation⟩⟩,
    ⟨"", groupType, "team", memberRelation, userType, .id "bob"⟩]

/-- The request that makes a user a viewer of the group. -/
def viewerRequest (user : String) : PolicyRequest :=
  { subjectType := userType
    subject := user
    relation := viewerRelation
    objectType := groupType
    object := "g" }

/-- The tuple that makes a user a viewer of the group. -/
def viewerTuple (user : String) : RelationTuple :=
  ⟨"", groupType, "g", viewerRelation, userType, .id user⟩

/-- A batch of which one request is granted through the team and the other one is written. -/
theorem checks_after_adding_teamOfViewers :
    (teamOfViewers.Addressable ∧ (teamOfViewers.write [viewerTuple "carol"]).Addressable ∧
      (inMemory.addMany [viewerRequest "bob", viewerRequest "carol"]).perform teamOfViewers =
        (.ok (), teamOfViewers.write [viewerTuple "carol"])) ∧
    ((∀ request ∈ [viewerRequest "bob", viewerRequest "carol"],
        (inMemory.check request).perform (teamOfViewers.write [viewerTuple "carol"]) =
          (.ok (), teamOfViewers.write [viewerTuple "carol"])) ↔
      ∀ request ∈ [viewerRequest "bob", viewerRequest "carol"], ∀ tuple,
        RelationTuple.ofRequest request = .ok tuple →
        teamOfViewers.satisfies .groupsSchema tuple = false ∨
          ∃ rest last,
            Goal.Chain (teamOfViewers.write [viewerTuple "carol"]) .groupsSchema tuple.goal rest
              last ∧
            last.Direct (teamOfViewers.write [viewerTuple "carol"]) .groupsSchema
              request.subjectRef ∧
            ∀ inner ∈ rest.dropLast,
              inner ∉ (teamOfViewers.write [viewerTuple "carol"]).boundaryGoals .groupsSchema
                request.subjectRef tuple.goal) := by
  have addressable : teamOfViewers.Addressable := by decide
  have addressableAfter : (teamOfViewers.write [viewerTuple "carol"]).Addressable := by decide
  have described : [viewerRequest "bob", viewerRequest "carol"].mapM RelationTuple.ofRequest =
      .ok [viewerTuple "bob", viewerTuple "carol"] := by rfl
  have left : pending teamOfViewers .groupsSchema [viewerTuple "bob", viewerTuple "carol"] =
      [viewerTuple "carol"] := by decide +kernel
  have added : (inMemory.addMany [viewerRequest "bob", viewerRequest "carol"]).perform
      teamOfViewers = (.ok (), teamOfViewers.write [viewerTuple "carol"]) := by
    rw [inMemory, perform_addMany addressable, described]
    simp only [left]
  exact ⟨⟨addressable, addressableAfter, added⟩,
    (checks_after_adding_iff _ _ _ addressable addressableAfter added).1⟩

end LocalAgent

end RelationAuth.Policy
