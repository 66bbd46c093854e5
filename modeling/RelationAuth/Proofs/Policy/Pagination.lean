import RelationAuth.Proofs.Policy.ListingOrder
import RelationAuth.Proofs.Policy.LocalAgent

/-!
# Listings read page by page

Whatever number of tuples is asked for at once, and in whatever order the subjects of a store are
gone through, the pages of a listing add up to one list: every stored tuple that the filter admits,
once, in the order of the ranks.  The agent answers this list, or its length, to any request that
names what the listing is about.
-/

namespace RelationAuth.Policy

variable {request : PolicyRequest}

namespace TupleStore

variable {store other : TupleStore}

theorem Reorders.exists_pages (reorders : other.Reorders store) (addressable : store.Addressable)
    (filter : TupleFilter) {limit : Nat} (positive : 0 < limit) :
    ∃ pages, Pages (other.read filter · limit) "" pages ∧
      pages.flatMap TuplePage.tuples = store.matching filter := by
  rcases other.exists_pages_of_all (reorders.addressable addressable) filter positive with
    ⟨pages, read, all, _⟩
  exact ⟨pages, read, all.trans (reorders.matching_eq filter)⟩

/-- Whatever the order of subjects, the complete listing in a direction and its count answer what
the filter of the request admits. -/
theorem Reorders.answers (reorders : other.Reorders store) (addressable : store.Addressable)
    (schema : PermissionSchema) (direction : Direction) (named : request.anchor direction ≠ "") :
    ∃ filter, TupleFilter.selectedBy direction request = .ok filter ∧
      ((LocalAgent.agent TupleRepository.inMemory schema).all direction request).perform other =
        (.ok (store.matching filter), other) ∧
      ((LocalAgent.agent TupleRepository.inMemory schema).count direction request).perform other =
        (.ok (store.matching filter).length, other) := by
  rcases TupleFilter.exists_selectedBy named with ⟨filter, selects⟩
  have listed :
      ((LocalAgent.agent TupleRepository.inMemory schema).all direction request).perform other =
        (.ok (store.matching filter), other) := by
    rw [LocalAgent.perform_all (reorders.addressable addressable), selects, ← reorders.matching_eq]
    rfl
  refine ⟨filter, selects, listed, ?_⟩
  rw [PolicyAgent.count_eq_length, Action.perform_map, listed]
  rfl

/-- The listing of a filter holds what the filter admits, once and in order.  Its pages come to an
end and add up to it, and complete listings and counts answer it and its length.  None of this
depends on the size of pages or on the order of subjects. -/
theorem pages_exhaust_listings (store : TupleStore) (reachable : store.Reachable)
    (addressable : store.Addressable) :
    (∀ filter,
      (store.matching filter).Nodup ∧
      (∀ tuple, tuple ∈ store.matching filter ↔
        tuple ∈ store.tuples ∧ filter.admitsTuple tuple) ∧
      ((store.matching filter).Pairwise fun early late => early.rank ≤ late.rank) ∧
      ∀ other : TupleStore, other.Reorders store → ∀ limit, 0 < limit →
        ∃ pages, Pages (other.read filter · limit) "" pages ∧
          pages.flatMap TuplePage.tuples = store.matching filter) ∧
    ∀ other : TupleStore, other.Reorders store → ∀ schema request,
      (request.subject ≠ "" → ∃ filter, TupleFilter.objectsOf request = .ok filter ∧
        ((LocalAgent.agent TupleRepository.inMemory schema).allObjects request).perform other =
          (.ok (store.matching filter), other) ∧
        ((LocalAgent.agent TupleRepository.inMemory schema).countObjects request).perform other =
          (.ok (store.matching filter).length, other)) ∧
      (request.object ≠ "" → ∃ filter, TupleFilter.subjectsOf request = .ok filter ∧
        ((LocalAgent.agent TupleRepository.inMemory schema).allSubjects request).perform other =
          (.ok (store.matching filter), other) ∧
        ((LocalAgent.agent TupleRepository.inMemory schema).countSubjects request).perform other =
          (.ok (store.matching filter).length, other)) := by
  constructor
  · intro filter
    refine ⟨reachable.unrepeated.nodup_matching filter, fun _ => mem_matching_iff,
      store.pairwise_matching filter, ?_⟩
    intro other reorders limit positive
    exact reorders.exists_pages addressable filter positive
  · intro other reorders schema request
    exact ⟨reorders.answers addressable schema .objects,
      reorders.answers addressable schema .subjects⟩

/-- A view of an object by a user in a namespace. -/
def viewIn (namespaceName object user : String) : RelationTuple :=
  ⟨namespaceName, groupType, object, viewerRelation, userType, .id user⟩

/-- Bob views a group in two namespaces, which tie in listings, and another group, and carol views
the first group too. -/
def tiedViewers : TupleStore :=
  TupleStore.empty.write
    [viewIn "west" "g" "bob", viewIn "east" "g" "bob", viewIn "west" "h" "bob",
      viewIn "west" "g" "carol"]

/-- The same views, with carol as the first subject. -/
def tiedViewersReversed : TupleStore :=
  TupleStore.empty.write
    [viewIn "west" "g" "carol", viewIn "west" "g" "bob", viewIn "east" "g" "bob",
      viewIn "west" "h" "bob"]

/-- What a filter admits is its listing, if it stands in listing order already. -/
theorem matching_eq_of_ordered {filter : TupleFilter} {tuples : List RelationTuple}
    (admitted : (store.candidates filter).filter filter.admitsTuple = tuples)
    (ordered : tuples.Pairwise fun early late => early.precedes late) :
    store.matching filter = tuples := by
  rw [matching, admitted]
  exact List.mergeSort_of_pairwise ordered

/-- Whichever subject comes first in a store, its listings come in one order.  Page by page, those
who view the group in the west are bob and then carol; all who view it are bob twice, first as it
was written first, and then carol. -/
theorem pages_exhaust_tiedViewers :
    (tiedViewers.Reachable ∧ tiedViewers.Addressable ∧ tiedViewersReversed.Reorders tiedViewers) ∧
    (∃ pages, Pages (tiedViewersReversed.read { namespaceName := some "west", object := some "g" }
        · 1) "" pages ∧
      pages.flatMap TuplePage.tuples = [viewIn "west" "g" "bob", viewIn "west" "g" "carol"]) ∧
    ((LocalAgent.agent TupleRepository.inMemory .groupsSchema).allSubjects
        { object := "g" }).perform tiedViewersReversed =
      (.ok [viewIn "west" "g" "bob", viewIn "east" "g" "bob", viewIn "west" "g" "carol"],
        tiedViewersReversed) ∧
    ((LocalAgent.agent TupleRepository.inMemory .groupsSchema).countSubjects
        { object := "g" }).perform tiedViewersReversed = (.ok 3, tiedViewersReversed) := by
  have reachable : tiedViewers.Reachable := .write .empty _
  have addressable : tiedViewers.Addressable := by decide
  have reorders : tiedViewersReversed.Reorders tiedViewers := by decide
  have listings := pages_exhaust_listings tiedViewers reachable addressable
  have inWest : tiedViewers.matching { namespaceName := some "west", object := some "g" } =
      [viewIn "west" "g" "bob", viewIn "west" "g" "carol"] :=
    matching_eq_of_ordered (by decide) (by decide)
  have onGroup : tiedViewers.matching { object := some "g" } =
      [viewIn "west" "g" "bob", viewIn "east" "g" "bob", viewIn "west" "g" "carol"] :=
    matching_eq_of_ordered (by decide) (by decide)
  rcases (listings.1 _).2.2.2 _ reorders 1 (by decide) with ⟨pages, read, shown⟩
  rcases (listings.2 _ reorders .groupsSchema { object := "g" }).2 (by decide) with
    ⟨filter, selects, listed, counted⟩
  obtain rfl : { object := some "g" } = filter := Except.ok.inj selects
  rw [onGroup] at listed counted
  exact ⟨⟨reachable, addressable, reorders⟩, ⟨pages, read, shown.trans inWest⟩, listed, counted⟩

end TupleStore

end RelationAuth.Policy
