import RelationAuth.Proofs.Policy.Idempotence
import RelationAuth.Proofs.Policy.Shown

/-!
# Tuples listed from both ends

The tuple of a request is among the objects of its subject and among the subjects of its object.
A set brings its own type into the tuple, whatever type the request gives its subject.  Listing the
objects of a set therefore passes over that type; listing the subjects of an object does not, so
that the tuple of a set is missed where the request gives the set another type.
-/

namespace RelationAuth.Policy

/-- Whether a request that gives its subject a type gives it its own one.  Only a set that the text
of the subject names has a type of its own. -/
def PolicyRequest.TypesSubject (request : PolicyRequest) : Prop :=
  request.subjectType = "" ∨ ∀ holders, Subject.parse request.subject = .set holders →
    holders.namespaceName = request.subjectType

variable {store after : TupleStore} {schema : PermissionSchema} {request : PolicyRequest}
  {tuple : RelationTuple}

namespace RelationTuple

/-- The subject type of a described tuple is that of the set it names, or the one that the request
gives. -/
theorem subjectType_of_ofRequest (described : ofRequest request = .ok tuple) :
    tuple.subjectType =
      match Subject.parse request.subject with
      | .id _ => request.subjectType
      | .set holders => holders.namespaceName := by
  rcases ofRequest_eq_ok_iff.mp described with ⟨_, rfl⟩
  rcases named : Subject.parse request.subject with name | holders
  · by_cases plain : request.subjectRelation = "" <;>
      simp [PolicyRequest.subjectRef, named, plain]
  · simp [PolicyRequest.subjectRef, named]

theorem subjectType_eq_iff_typesSubject (described : ofRequest request = .ok tuple) :
    request.subjectType = "" ∨ tuple.subjectType = request.subjectType ↔ request.TypesSubject := by
  rw [subjectType_of_ofRequest described, PolicyRequest.TypesSubject]
  cases Subject.parse request.subject <;> simp

end RelationTuple

namespace TupleFilter

/-- The listing of objects admits the tuple that its request describes. -/
theorem objectsOf_admits (described : RelationTuple.ofRequest request = .ok tuple) :
    ∃ filter, objectsOf request = .ok filter ∧ filter.admitsTuple tuple := by
  rcases RelationTuple.ofRequest_eq_ok_iff.mp described with ⟨valid, rfl⟩
  rw [PolicyRequest.validateWrite_eq_ok_iff, PolicyRequest.commonFault?_eq_none_iff] at valid
  rcases valid with ⟨⟨named, -, aimed⟩, related⟩
  refine ⟨_, if_neg named, ?_⟩
  cases request.subjectRef <;>
    simp [admitsTuple, PolicyRequest.relationOrPermission, related, Subject.isSet]

/-- The listing of subjects admits the tuple if the request gives its subject's own type, or
none. -/
theorem subjectsOf_admits_iff (described : RelationTuple.ofRequest request = .ok tuple) :
    ∃ filter, subjectsOf request = .ok filter ∧
      (filter.admitsTuple tuple ↔ request.TypesSubject) := by
  rw [← RelationTuple.subjectType_eq_iff_typesSubject described]
  rcases RelationTuple.ofRequest_eq_ok_iff.mp described with ⟨valid, rfl⟩
  rw [PolicyRequest.validateWrite_eq_ok_iff, PolicyRequest.commonFault?_eq_none_iff] at valid
  rcases valid with ⟨⟨named, -, aimed⟩, related⟩
  refine ⟨_, if_neg aimed, ?_⟩
  simp [admitsTuple, PolicyRequest.relationOrPermission, related]

end TupleFilter

namespace LocalAgent

/-- A request that changes the store when it is added has its tuple in the store then. -/
theorem mem_tuples_of_added (described : RelationTuple.ofRequest request = .ok tuple)
    (added : ((agent TupleRepository.inMemory schema).add request).perform store =
      (.ok (), after)) (changed : after ≠ store) : tuple ∈ after.tuples := by
  rcases after_add added with ⟨same, describedToo, ⟨-, rfl⟩ | ⟨-, rfl⟩⟩
  · exact absurd rfl changed
  obtain rfl : tuple = same := Except.ok.inj (described.symm.trans describedToo)
  have missing : ¬store.Stores tuple.key :=
    fun stored => changed (TupleStore.write_of_stores stored)
  exact TupleStore.mem_tuples_writeOne.mpr (.inr ⟨rfl, missing⟩)

/-- Where the tuple of a valid request is listed.  The filter for the objects of its subject admits
it, and the filter for the subjects of its object admits it exactly if the request gives the subject
its own type, if any.  So once adding the request has written the tuple, the one listing shows it,
and the other one does on the same condition, over every store and schema. -/
theorem listed_from_both_ends_iff (request : PolicyRequest)
    (valid : request.validateWrite = .ok ()) :
    ∃ tuple objects subjects, RelationTuple.ofRequest request = .ok tuple ∧
      TupleFilter.objectsOf request = .ok objects ∧ objects.admitsTuple tuple ∧
      TupleFilter.subjectsOf request = .ok subjects ∧
      (subjects.admitsTuple tuple ↔ request.TypesSubject) ∧
      ∀ (schema : PermissionSchema) (store after : TupleStore), after.Addressable →
        ((agent TupleRepository.inMemory schema).add request).perform store = (.ok (), after) →
          after ≠ store →
            after.ShowsObject schema request tuple ∧
              (after.ShowsSubject schema request tuple ↔ request.TypesSubject) := by
  have described := RelationTuple.ofRequest_eq_ok_iff.mpr ⟨valid, rfl⟩
  rcases TupleFilter.objectsOf_admits described with ⟨objects, ofSubject, admits⟩
  rcases TupleFilter.subjectsOf_admits_iff described with ⟨subjects, ofObject, admitsIff⟩
  refine ⟨_, objects, subjects, described, ofSubject, admits, ofObject, admitsIff, ?_⟩
  intro schema store after addressable added changed
  have stored := mem_tuples_of_added described added changed
  constructor
  · exact (TupleStore.shows_iff_admits .objects addressable ofSubject).mpr ⟨stored, admits⟩
  · rw [TupleStore.ShowsSubject, TupleStore.shows_iff_admits .subjects addressable ofObject,
      admitsIff]
    exact and_iff_right stored

/-- A request that lets the members of a team view a thing, with a type for the members. -/
def teamRequest (subjectType : String) : PolicyRequest :=
  { subjectType
    subject := "group:team#member"
    relation := viewerRelation
    objectType := thingType
    object := "t" }

/-- The tuple of the request, whatever type it gives the members. -/
def teamTuple : RelationTuple :=
  ⟨"", thingType, "t", viewerRelation, groupType, .set ⟨groupType, "team", memberRelation⟩⟩

/-- The store that holds the team's tuple only. -/
def teamStore : TupleStore :=
  TupleStore.empty.write [teamTuple]

theorem perform_add_teamRequest {subjectType : String}
    (described : RelationTuple.ofRequest (teamRequest subjectType) = .ok teamTuple) :
    (inMemory.add (teamRequest subjectType)).perform .empty = (.ok (), teamStore) := by
  have addressable : TupleStore.empty.Addressable := by decide
  have unsatisfied : TupleStore.empty.satisfies .groupsSchema teamTuple = false := by
    decide +kernel
  have added := perform_add .groupsSchema addressable described
  rwa [unsatisfied] at added

/-- The team is listed from both ends if the request calls it a group. -/
theorem listed_from_both_ends_groupType :
    (teamRequest groupType).validateWrite = .ok () ∧
      (inMemory.add (teamRequest groupType)).perform .empty = (.ok (), teamStore) ∧
      teamStore.ShowsObject .groupsSchema (teamRequest groupType) teamTuple ∧
      teamStore.ShowsSubject .groupsSchema (teamRequest groupType) teamTuple := by
  have valid : (teamRequest groupType).validateWrite = .ok () := by decide
  have described : RelationTuple.ofRequest (teamRequest groupType) = .ok teamTuple := by rfl
  have added := perform_add_teamRequest described
  have addressable : teamStore.Addressable := by decide
  have changed : teamStore ≠ .empty := by
    intro same
    exact absurd (congrArg TupleStore.size same) (by decide)
  have typed : (teamRequest groupType).TypesSubject := by
    refine .inr fun holders named => ?_
    obtain rfl : ⟨groupType, "team", memberRelation⟩ = holders := Subject.set.inj named
    rfl
  rcases listed_from_both_ends_iff (teamRequest groupType) valid with
    ⟨tuple, _, _, same, -, -, -, -, listed⟩
  obtain rfl : teamTuple = tuple := Except.ok.inj (described.symm.trans same)
  rcases listed .groupsSchema .empty teamStore addressable added changed with ⟨object, subject⟩
  exact ⟨valid, added, object, subject.mpr typed⟩

/-- The team is listed from one end only if the request calls it a user. -/
theorem listed_from_one_end_userType :
    (teamRequest userType).validateWrite = .ok () ∧
      RelationTuple.ofRequest (teamRequest userType) = .ok teamTuple ∧
      (∃ filter, TupleFilter.subjectsOf (teamRequest userType) = .ok filter ∧
        filter.admitsTuple teamTuple = false) ∧
      (inMemory.add (teamRequest userType)).perform .empty = (.ok (), teamStore) ∧
      (inMemory.allObjects (teamRequest userType)).perform teamStore =
        (.ok [teamTuple], teamStore) ∧
      (inMemory.allSubjects (teamRequest userType)).perform teamStore = (.ok [], teamStore) := by
  have described : RelationTuple.ofRequest (teamRequest userType) = .ok teamTuple := by rfl
  have addressable : teamStore.Addressable := by decide
  refine ⟨by decide, described, ⟨_, rfl, by decide⟩, perform_add_teamRequest described, ?_, ?_⟩
  · rw [inMemory, PolicyAgent.allObjects, perform_all addressable]
    exact congrArg (·, teamStore) (by decide +kernel)
  · rw [inMemory, PolicyAgent.allSubjects, perform_all addressable]
    exact congrArg (·, teamStore) (by decide +kernel)

end LocalAgent

end RelationAuth.Policy
