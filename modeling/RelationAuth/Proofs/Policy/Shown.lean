import RelationAuth.Proofs.Policy.LocalAgent

/-!
# What listings show and checks confirm

A listing without a namespace shows the tuples of all namespaces, as do the lists of holders and
parents that a check reads.  But the first look-up of a check takes the missing namespace literally,
and all goals of a check have one namespace.  So a check confirms what a listing shows in the
namespace of the request, and a tuple of another namespace may be shown and denied.
-/

namespace RelationAuth.Policy

variable {store : TupleStore} {schema : PermissionSchema} {request : PolicyRequest}
  {tuple : RelationTuple} {direction : Direction}

/-! ### Checks stay in their namespace -/

namespace Goal

variable {goal next : Goal}

theorem Step.namespaceName_eq (step : Step store schema goal next) :
    next.namespaceName = goal.namespaceName := by
  cases step with
  | throughSet => rfl
  | throughParent => rfl

theorem Chain.namespaceName_eq {rest : List Goal} (chain : Chain store schema goal rest next) :
    next.namespaceName = goal.namespaceName := by
  induction chain with
  | stop => rfl
  | follow step _ ih => exact ih.trans step.namespaceName_eq

end Goal

/-- A check is denied if nothing is stored in its own namespace, whatever the sets and parents that
it comes to in others. -/
theorem TupleStore.check_of_foreign (addressable : store.Addressable) {subject : Subject}
    {goal : Goal} (foreign : ∀ tuple ∈ store.tuples, tuple.namespaceName ≠ goal.namespaceName) :
    store.check schema subject goal ≠ .ok true := by
  intro granted
  rcases chain_of_check addressable granted with ⟨rest, last, chain, ⟨relation, _, direct⟩, _⟩
  rcases direct with ⟨tuple, stored, same⟩
  apply foreign tuple stored
  exact (congrArg TupleKey.namespaceName same).trans chain.namespaceName_eq

/-! ### Tuples shown -/

namespace TupleFilter

/-- A listing seeks the namespace of its request, or all of them if it names none. -/
theorem namespaceName_of_selectedBy {filter : TupleFilter}
    (selects : selectedBy direction request = .ok filter) :
    filter.namespaceName = nonEmpty? request.namespaceName := by
  cases direction with
  | objects =>
    rw [selectedBy, objectsOf] at selects
    split at selects
    · cases selects
    · exact congrArg namespaceName (Except.ok.inj selects).symm
  | subjects =>
    rw [selectedBy, subjectsOf] at selects
    split at selects
    · cases selects
    · exact congrArg namespaceName (Except.ok.inj selects).symm

end TupleFilter

/-- What a request asks of the object of a tuple: the relation of the tuple, in the namespace of the
request. -/
def PolicyRequest.goalOf (request : PolicyRequest) (tuple : RelationTuple) : Goal :=
  { namespaceName := request.namespaceName
    objectType := tuple.objectType
    object := tuple.object
    name := tuple.relation }

namespace TupleStore

/-- Whether the complete listing for a request in a direction has a tuple. -/
def Shows (store : TupleStore) (schema : PermissionSchema) (direction : Direction)
    (request : PolicyRequest) (tuple : RelationTuple) : Prop :=
  ∃ shown, ((LocalAgent.agent TupleRepository.inMemory schema).all direction request).perform
    store = (.ok shown, store) ∧ tuple ∈ shown

/-- Whether the complete listing of what is related to the object of a request has a tuple. -/
def ShowsSubject (store : TupleStore) (schema : PermissionSchema) (request : PolicyRequest)
    (tuple : RelationTuple) : Prop :=
  store.Shows schema .subjects request tuple

/-- Whether the complete listing of what the subject of a request relates to has a tuple. -/
def ShowsObject (store : TupleStore) (schema : PermissionSchema) (request : PolicyRequest)
    (tuple : RelationTuple) : Prop :=
  store.Shows schema .objects request tuple

/-- Whether a check in the namespace of a request grants the subject of a tuple its relation. -/
def Confirms (store : TupleStore) (schema : PermissionSchema) (request : PolicyRequest)
    (tuple : RelationTuple) : Prop :=
  store.check schema tuple.subject (request.goalOf tuple) = .ok true

/-- What is shown is what is stored and the filter of the request admits. -/
theorem shows_iff_admits (direction : Direction) (addressable : store.Addressable)
    {filter : TupleFilter} (selects : TupleFilter.selectedBy direction request = .ok filter) :
    store.Shows schema direction request tuple ↔
      tuple ∈ store.tuples ∧ filter.admitsTuple tuple := by
  rw [Shows, LocalAgent.perform_all addressable, selects]
  simp [Except.map, mem_matching_iff]

/-- In either direction, what is shown is stored, in the namespace of the request if it names
one. -/
theorem stored_of_shows (addressable : store.Addressable)
    (shown : store.Shows schema direction request tuple) :
    tuple ∈ store.tuples ∧
      (request.namespaceName = "" ∨ tuple.namespaceName = request.namespaceName) := by
  rcases selects : TupleFilter.selectedBy direction request with cause | filter
  · rcases shown with ⟨listed, performed, -⟩
    rw [LocalAgent.perform_all addressable, selects] at performed
    cases performed
  · rcases (shows_iff_admits direction addressable selects).mp shown with ⟨stored, admitted⟩
    refine ⟨stored, ?_⟩
    simp only [TupleFilter.admitsTuple, TupleFilter.namespaceName_of_selectedBy selects,
      Bool.and_eq_true, TupleFilter.admits_nonEmpty?_iff] at admitted
    exact admitted.1.1.1.1.1

/-- A tuple that is stored in the request's own namespace is confirmed by a check. -/
theorem confirms_of_stored (stored : tuple ∈ store.tuples)
    (together : tuple.namespaceName = request.namespaceName) :
    store.Confirms schema request tuple := by
  apply check_of_direct
  refine ⟨tuple.relation, Or.inl rfl, tuple, stored, ?_⟩
  simp [RelationTuple.key, PolicyRequest.goalOf, together]

/-! ### A tuple of another namespace -/

/-- A tuple that fits a request in all but the namespace. -/
def strayTuple (request : PolicyRequest) : RelationTuple :=
  { namespaceName := "elsewhere"
    objectType := request.objectType
    object := request.object
    relation :=
      if request.relationOrPermission = "" then viewerRelation else request.relationOrPermission
    subjectType := request.subjectType
    subject := request.subjectRef }

/-- The store that holds the tuple of another namespace only. -/
def strayStore (request : PolicyRequest) : TupleStore :=
  TupleStore.empty.write [strayTuple request]

theorem tuples_strayStore : (strayStore request).tuples = [strayTuple request] :=
  rfl

theorem addressable_strayStore : (strayStore request).Addressable := by
  simp [Addressable, size, tuples_strayStore, word64Bound]

/-- The complete listings in either direction show the tuple of another namespace. -/
theorem strayStore_shows (unnamed : request.namespaceName = "")
    (named : request.anchor direction ≠ "") :
    (strayStore request).Shows schema direction request (strayTuple request) := by
  rcases TupleFilter.exists_selectedBy named with ⟨filter, selects⟩
  rw [shows_iff_admits direction addressable_strayStore selects, tuples_strayStore]
  refine ⟨List.mem_singleton_self _, ?_⟩
  cases direction with
  | objects =>
    obtain rfl := Except.ok.inj ((if_neg named).symm.trans selects)
    cases request.subjectRef.isSet <;>
      simp +contextual [TupleFilter.admitsTuple, strayTuple, unnamed, or_iff_not_imp_left]
  | subjects =>
    obtain rfl := Except.ok.inj ((if_neg named).symm.trans selects)
    simp +contextual [TupleFilter.admitsTuple, strayTuple, unnamed, or_iff_not_imp_left]

theorem strayTuple_relation_ne_empty : (strayTuple request).relation ≠ "" := by
  by_cases unrelated : request.relationOrPermission = ""
  · simp [strayTuple, unrelated, viewerRelation]
  · simp [strayTuple, unrelated]

/-- A tuple in a named namespace is confirmed by no check without one. -/
theorem strayStore_not_confirms (unnamed : request.namespaceName = "") :
    ¬(strayStore request).Confirms schema request (strayTuple request) := by
  apply check_of_foreign addressable_strayStore
  simp [tuples_strayStore, strayTuple, PolicyRequest.goalOf, unnamed]

/-! ### What is shown is granted where the request names a namespace -/

/-- The tuples that the listings in a direction show are granted, over every store, exactly if the
request names a namespace. -/
theorem shown_are_granted_iff (schema : PermissionSchema) (direction : Direction)
    (request : PolicyRequest) (named : request.anchor direction ≠ "") :
    (∀ store : TupleStore, store.Addressable → ∀ tuple,
      store.Shows schema direction request tuple → tuple.relation ≠ "" →
        store.Confirms schema request tuple) ↔ request.namespaceName ≠ "" := by
  constructor
  · -- Without a namespace, the tuple of another one is shown, and nothing is stored in the empty one.
    intro agree unnamed
    exact strayStore_not_confirms unnamed (agree _ addressable_strayStore _
      (strayStore_shows unnamed named) strayTuple_relation_ne_empty)
  · intro given store addressable tuple shown _
    rcases stored_of_shows addressable shown with ⟨stored, together⟩
    exact confirms_of_stored stored (together.resolve_left given)

/-- A tuple shown in the namespace of the request passes its check.  All tuples that are shown do,
over every store, exactly if the request names a namespace. -/
theorem shown_tuples_are_granted_iff (schema : PermissionSchema) (request : PolicyRequest)
    (named : request.object ≠ "") :
    (∀ store : TupleStore, store.Addressable → ∀ tuple,
      store.ShowsSubject schema request tuple ∨ store.ShowsObject schema request tuple →
        tuple.namespaceName = request.namespaceName → store.Confirms schema request tuple) ∧
    ((∀ store : TupleStore, store.Addressable → ∀ tuple,
      store.ShowsSubject schema request tuple → tuple.relation ≠ "" →
        store.Confirms schema request tuple) ↔ request.namespaceName ≠ "") ∧
    (request.subject ≠ "" →
      ((∀ store : TupleStore, store.Addressable → ∀ tuple,
        store.ShowsObject schema request tuple → tuple.relation ≠ "" →
          store.Confirms schema request tuple) ↔ request.namespaceName ≠ "")) := by
  refine ⟨?_, shown_are_granted_iff schema .subjects request named,
    shown_are_granted_iff schema .objects request⟩
  rintro store addressable tuple (shown | shown) together
  · exact confirms_of_stored (stored_of_shows addressable shown).1 together
  · exact confirms_of_stored (stored_of_shows addressable shown).1 together

/-- Bob views a group in a namespace. -/
def viewerOfAcme : TupleStore :=
  TupleStore.empty.write [⟨"acme", groupType, "g", viewerRelation, userType, .id "bob"⟩]

/-- Without a namespace bob is shown as a viewer of the group, and denied. -/
theorem shown_and_denied_viewerOfAcme :
    viewerOfAcme.Addressable ∧
      viewerOfAcme.ShowsSubject .groupsSchema { objectType := groupType, object := "g" }
        ⟨"acme", groupType, "g", viewerRelation, userType, .id "bob"⟩ ∧
      viewerOfAcme.check .groupsSchema (.id "bob") ⟨"", groupType, "g", viewerRelation⟩ =
        .ok false := by
  have addressable : viewerOfAcme.Addressable := by decide
  refine ⟨addressable, (shows_iff_admits .subjects addressable rfl).mpr (by decide), ?_⟩
  rw [check_eq addressable]
  exact congrArg Except.ok (by decide +kernel)

/-- A viewer in a named namespace is listed and granted. -/
theorem shown_and_granted_viewerOfAcme :
    "g" ≠ "" ∧
      viewerOfAcme.ShowsSubject .groupsSchema
        { namespaceName := "acme", objectType := groupType, object := "g" }
        ⟨"acme", groupType, "g", viewerRelation, userType, .id "bob"⟩ ∧
      viewerOfAcme.check .groupsSchema (.id "bob") ⟨"acme", groupType, "g", viewerRelation⟩ =
        .ok true := by
  have addressable : viewerOfAcme.Addressable := by decide
  have shown : viewerOfAcme.ShowsSubject .groupsSchema
      { namespaceName := "acme", objectType := groupType, object := "g" }
      ⟨"acme", groupType, "g", viewerRelation, userType, .id "bob"⟩ :=
    (shows_iff_admits .subjects addressable rfl).mpr (by decide)
  have granted := shown_tuples_are_granted_iff .groupsSchema
    { namespaceName := "acme", objectType := groupType, object := "g" } (by decide)
  exact ⟨by decide, shown, granted.2.1.mpr (by decide) _ addressable _ shown (by decide)⟩

end TupleStore

end RelationAuth.Policy
