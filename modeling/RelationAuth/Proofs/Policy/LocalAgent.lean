import RelationAuth.Policy.LocalAgent
import RelationAuth.Proofs.Policy.Agent
import RelationAuth.Proofs.Policy.Reachability

/-!
# The operations of the local agent

Over a tuple store a check of a valid request never fails otherwise than by a denial.  So adding
either refuses a request before it reads anything, or it writes the tuples that are not granted yet.
-/

namespace RelationAuth.Policy

/-! ### Valid requests -/

namespace PolicyRequest

variable {request : PolicyRequest}

/-- The faults common to all requests are a missing subject, a relation without a type and a missing
object. -/
theorem commonFault?_eq_none_iff :
    request.commonFault? = none ↔
      request.subject ≠ "" ∧ request.hasUntypedRelation = false ∧ request.object ≠ "" := by
  by_cases subject : request.subject = ""
  · simp [commonFault?, subject]
  by_cases untyped : request.hasUntypedRelation
  · simp [commonFault?, subject, untyped]
  by_cases object : request.object = "" <;> simp [commonFault?, subject, untyped, object]

theorem validateCheck_eq_ok_iff :
    request.validateCheck = .ok () ↔
      request.commonFault? = none ∧ (request.relation ≠ "" ∨ request.permission ≠ "") := by
  rcases fault : request.commonFault? with _ | cause
  · simp [validateCheck, fault, imp_iff_not_or]
  · simp [validateCheck, fault]

theorem validateWrite_eq_ok_iff :
    request.validateWrite = .ok () ↔ request.commonFault? = none ∧ request.relation ≠ "" := by
  rcases fault : request.commonFault? with _ | cause <;> simp [validateWrite, fault]

/-- A request that may be written may be checked. -/
theorem validateCheck_of_validateWrite (valid : request.validateWrite = .ok ()) :
    request.validateCheck = .ok () := by
  rw [validateWrite_eq_ok_iff] at valid
  exact validateCheck_eq_ok_iff.mpr ⟨valid.1, Or.inl valid.2⟩

theorem subjectRef_of_no_relation (none : request.subjectRelation = "") :
    request.subjectRef = Subject.parse request.subject := by
  unfold subjectRef
  split <;> simp_all

theorem display_subjectRef_ne_empty (given : request.subject ≠ "") :
    request.subjectRef.display ≠ "" := by
  have setText : ∀ holders : SubjectSet, (Subject.set holders).display ≠ "" := by
    intro holders empty
    have chars := congrArg String.toList empty
    simp [Subject.display, SubjectSet.display] at chars
  unfold subjectRef
  split
  · rename_i name named
    split
    · have same : request.subject = name := by
        unfold Subject.parse at named
        split at named <;> simp_all
      simpa [Subject.display, ← same] using given
    · exact setText _
  · exact setText _

end PolicyRequest

namespace RelationTuple

variable {request : PolicyRequest} {tuple : RelationTuple}

/-- A request describes a tuple exactly if it may be written, and then this one. -/
theorem ofRequest_eq_ok_iff :
    ofRequest request = .ok tuple ↔
      request.validateWrite = .ok () ∧
        tuple = {
          namespaceName := request.namespaceName
          objectType := request.objectType
          object := request.object
          relation := request.relation
          subjectType :=
            match request.subjectRef with
            | .set holders => holders.namespaceName
            | .id _ => request.subjectType
          subject := request.subjectRef } := by
  rcases valid : request.validateWrite with cause | _
  · simp [ofRequest, valid, bind, Except.bind]
  · simp only [ofRequest, valid, bind, Except.bind, pure, Except.pure, Except.ok.injEq, true_and]
    exact eq_comm

/-- Requests that are all valid have their tuples among those described, and no others are. -/
theorem of_mapM_eq_ok {requests : List PolicyRequest} {tuples : List RelationTuple}
    (described : requests.mapM ofRequest = .ok tuples) :
    (∀ request ∈ requests, ∃ tuple ∈ tuples, ofRequest request = .ok tuple) ∧
      ∀ tuple ∈ tuples, ∃ request ∈ requests, ofRequest request = .ok tuple := by
  induction requests generalizing tuples with
  | nil =>
    obtain rfl : tuples = [] := by simpa [pure, Except.pure] using described.symm
    simp
  | cons request rest ih =>
    rcases first : ofRequest request with cause | tuple
    · simp [List.mapM_cons, first, bind, Except.bind] at described
    rcases others : rest.mapM ofRequest with cause | further
    · simp [List.mapM_cons, first, others, bind, Except.bind] at described
    obtain rfl : tuples = tuple :: further := by
      simpa [List.mapM_cons, first, others, bind, Except.bind, pure, Except.pure] using
        described.symm
    rcases ih others with ⟨described, requested⟩
    refine ⟨List.forall_mem_cons.mpr ⟨⟨tuple, List.mem_cons_self, first⟩, ?_⟩,
      List.forall_mem_cons.mpr ⟨⟨request, List.mem_cons_self, first⟩, ?_⟩⟩
    · intro other mem
      rcases described other mem with ⟨its, among, same⟩
      exact ⟨its, List.mem_cons_of_mem _ among, same⟩
    · intro other mem
      rcases requested other mem with ⟨its, among, same⟩
      exact ⟨its, List.mem_cons_of_mem _ among, same⟩

/-- The goal of the probe for a tuple. -/
def goal (tuple : RelationTuple) : Goal :=
  { namespaceName := tuple.namespaceName
    objectType := tuple.objectType
    object := tuple.object
    name := tuple.relation }

/-- The subject for which the probe for a tuple asks: the one that the text of its subject names. -/
def probedSubject (tuple : RelationTuple) : Subject :=
  Subject.parse tuple.subject.display

theorem subjectRef_toCheckRequest : tuple.toCheckRequest.subjectRef = tuple.probedSubject :=
  PolicyRequest.subjectRef_of_no_relation rfl

theorem goal_toCheckRequest (described : ofRequest request = .ok tuple) :
    tuple.toCheckRequest.goal = tuple.goal := by
  rw [ofRequest_eq_ok_iff, PolicyRequest.validateWrite_eq_ok_iff] at described
  rcases described with ⟨⟨_, relation⟩, rfl⟩
  simp [PolicyRequest.goal, PolicyRequest.relationOrPermission, toCheckRequest, goal, relation]

/-- The probe of a described tuple is a valid check. -/
theorem validateCheck_toCheckRequest (described : ofRequest request = .ok tuple) :
    tuple.toCheckRequest.validateCheck = .ok () := by
  rw [ofRequest_eq_ok_iff, PolicyRequest.validateWrite_eq_ok_iff,
    PolicyRequest.commonFault?_eq_none_iff] at described
  rcases described with ⟨⟨⟨subject, _, object⟩, relation⟩, rfl⟩
  refine PolicyRequest.validateCheck_eq_ok_iff.mpr
    ⟨PolicyRequest.commonFault?_eq_none_iff.mpr ⟨?_, ?_, object⟩, Or.inl relation⟩
  · exact PolicyRequest.display_subjectRef_ne_empty subject
  · simp [PolicyRequest.hasUntypedRelation, toCheckRequest]

end RelationTuple

/-- Whether the probe for a tuple succeeds in a store. -/
def TupleStore.satisfies (store : TupleStore) (schema : PermissionSchema) (tuple : RelationTuple) :
    Bool :=
  (store.searchGoals schema tuple.probedSubject tuple.goal).1

/-! ### Operations -/

namespace LocalAgent

variable {store : TupleStore} {schema : PermissionSchema} {request : PolicyRequest}
  {tuple : RelationTuple}

/-- A check of a valid request answers whether the search for it finds anything. -/
theorem perform_check (addressable : store.Addressable) (valid : request.validateCheck = .ok ()) :
    ((agent TupleRepository.inMemory schema).check request).perform store =
      (if (store.searchGoals schema request.subjectRef request.goal).1 then .ok ()
        else .error (.failure .unauthorized), store) := by
  have answered : check (TupleRepository.inMemory.reader store) schema request.subjectRef
      request.goal = .ok (store.searchGoals schema request.subjectRef request.goal).1 :=
    TupleStore.check_eq addressable
  simp only [agent, Action.perform_query, answer, valid, answered, bind, Except.bind]
  cases (store.searchGoals schema request.subjectRef request.goal).1 <;> rfl

/-- A valid check succeeds exactly if the store grants its goal. -/
theorem perform_check_eq_ok_iff (addressable : store.Addressable)
    (valid : request.validateCheck = .ok ()) :
    ((agent TupleRepository.inMemory schema).check request).perform store = (.ok (), store) ↔
      store.check schema request.subjectRef request.goal = .ok true := by
  rw [perform_check addressable valid, TupleStore.check_eq addressable]
  cases (store.searchGoals schema request.subjectRef request.goal).1 <;> simp

theorem perform_check_of_denied (addressable : store.Addressable)
    (valid : request.validateCheck = .ok ())
    (denied : store.check schema request.subjectRef request.goal ≠ .ok true) :
    ((agent TupleRepository.inMemory schema).check request).perform store =
      (.error (.failure .unauthorized), store) := by
  rw [TupleStore.check_eq addressable, ne_eq, Except.ok.injEq] at denied
  rw [perform_check addressable valid, if_neg denied]

/-- A probe answers whether the tuple is satisfied. -/
theorem perform_isSatisfied (addressable : store.Addressable)
    (described : RelationTuple.ofRequest request = .ok tuple) :
    ((agent TupleRepository.inMemory schema).isSatisfied tuple).perform store =
      (.ok (store.satisfies schema tuple), store) := by
  have probe : ((agent TupleRepository.inMemory schema).check tuple.toCheckRequest).perform store =
      (if store.satisfies schema tuple then .ok () else .error (.failure .unauthorized),
        store) := by
    rw [perform_check addressable (RelationTuple.validateCheck_toCheckRequest described),
      RelationTuple.subjectRef_toCheckRequest, RelationTuple.goal_toCheckRequest described]
    rfl
  rw [PolicyAgent.perform_isSatisfied, probe]
  cases store.satisfies schema tuple <;> rfl

/-- The tuples that a batch writes: those whose probes fail, each once. -/
def pending (store : TupleStore) (schema : PermissionSchema) (tuples : List RelationTuple) :
    List RelationTuple :=
  (tuples.filter fun tuple => !store.satisfies schema tuple).eraseDups

theorem mem_of_mem_pending {tuples : List RelationTuple}
    (mem : tuple ∈ pending store schema tuples) : tuple ∈ tuples := by
  simp only [pending, List.mem_eraseDups, List.mem_filter] at mem
  exact mem.1

/-- Adding a batch refuses it as a whole, or writes what is pending of it. -/
theorem perform_addMany (addressable : store.Addressable) (requests : List PolicyRequest) :
    ((agent TupleRepository.inMemory schema).addMany requests).perform store =
      match requests.mapM RelationTuple.ofRequest with
      | .ok tuples => (.ok (), store.write (pending store schema tuples))
      | .error cause => (.error (.failure cause), store) := by
  rcases described : requests.mapM RelationTuple.ofRequest with cause | tuples
  · rw [PolicyAgent.addMany, Action.perform_bind, described, Action.perform_ofExcept]
    rfl
  · have probes : (tuples.mapM (agent TupleRepository.inMemory schema).isSatisfied).perform store =
        (.ok (tuples.map (store.satisfies schema)), store) := by
      refine Action.perform_mapM_of_answers fun tuple mem => ?_
      rcases (RelationTuple.of_mapM_eq_ok described).2 tuple mem with ⟨request, _, single⟩
      exact perform_isSatisfied addressable single
    have unsatisfied : ((tuples.zip (tuples.map (store.satisfies schema))).filter (!·.2)).map
        Prod.fst = tuples.filter fun tuple => !store.satisfies schema tuple :=
      Action.map_fst_filter_zip_map
    have noFault : (Action.ofExcept (requests.mapM RelationTuple.ofRequest) :
        Action TupleStore PolicyError _).perform store = (.ok tuples, store) := by
      simp [described]
    rw [PolicyAgent.addMany, Action.perform_bind_ok noFault, Action.perform_bind_ok probes]
    simp only [unsatisfied]
    change (if (pending store schema tuples).isEmpty then pure ()
      else (agent TupleRepository.inMemory schema).write (pending store schema tuples) :
        Action TupleStore PolicyError Unit).perform store = _
    rcases pending store schema tuples with _ | ⟨first, rest⟩
    · rfl
    · simp [agent, TupleRepository.inMemory, Action.perform_change]

/-- Removing a batch refuses it as a whole, or deletes its tuples. -/
theorem perform_removeMany (requests : List PolicyRequest) :
    ((agent TupleRepository.inMemory schema).removeMany requests).perform store =
      match requests.mapM RelationTuple.ofRequest with
      | .ok tuples => (.ok (), store.delete tuples)
      | .error cause => (.error (.failure cause), store) := by
  rcases described : requests.mapM RelationTuple.ofRequest with cause | tuples
  · rw [PolicyAgent.removeMany, Action.perform_bind, described, Action.perform_ofExcept]
    rfl
  · have noFault : (Action.ofExcept (requests.mapM RelationTuple.ofRequest) :
        Action TupleStore PolicyError _).perform store = (.ok tuples, store) := by
      simp [described]
    rw [PolicyAgent.removeMany, Action.perform_bind_ok noFault]
    rcases tuples with _ | ⟨first, rest⟩
    · rfl
    · simp [agent, TupleRepository.inMemory, Action.perform_change]

/-- A complete listing answers what its filter admits, or that there is no such filter. -/
theorem perform_drain_all {selected : Except PolicyError TupleFilter}
    {page : String → Action TupleStore PolicyError TuplePage} (addressable : store.Addressable)
    (reads : ∀ token, page token = Action.query fun store => do
      let filter ← selected
      store.read filter token drainPageSize) :
    (drain page (store.size + 1) "").perform store =
      (selected.mapError Stop.failure |>.map store.matching, store) := by
  rcases selected with cause | filter
  · have refused : (page "").perform store = (.error (.failure cause), store) := by
      rw [reads, Action.perform_query]
      rfl
    rw [drain, Action.perform_bind, refused]
    rfl
  · have reading : ∀ token, (page token).perform store =
        ((store.read filter token drainPageSize).mapError .failure, store) := by
      intro token
      rw [reads, Action.perform_query]
      rfl
    have positive : 0 < drainPageSize := by decide
    rcases store.exists_pages_of_all addressable filter positive with ⟨pages, read, all, few⟩
    rw [perform_drain_of_pages reading read few, all]
    rfl

/-- A listing in either direction answers the tuples that its request selects. -/
theorem perform_all (addressable : store.Addressable) (direction : Direction)
    (request : PolicyRequest) :
    ((agent TupleRepository.inMemory schema).all direction request).perform store =
      ((TupleFilter.selectedBy direction request).mapError Stop.failure |>.map store.matching,
        store) := by
  have reads (token : String) :
      (agent TupleRepository.inMemory schema).page direction request token =
        Action.query fun store => TupleFilter.selectedBy direction request >>= fun filter =>
          store.read filter token drainPageSize := by
    cases direction <;> rfl
  exact perform_drain_all addressable reads

end LocalAgent

end RelationAuth.Policy
