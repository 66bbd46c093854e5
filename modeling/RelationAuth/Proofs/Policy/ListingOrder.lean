import Mathlib.Data.Prod.Lex
import Mathlib.Data.String.Basic
import Mathlib.Data.Sum.Order
import RelationAuth.Proofs.Policy.Listing
import RelationAuth.Proofs.Ranking

/-!
# The order of listings

Tuples are listed by object type, object, relation and subject, ids before sets.  The namespace has
no part in this rank, so tuples that differ in it may tie.  But tuples of one rank have one subject,
and what a subject holds is kept in the order in which it was written.  So a listing is determined by
what each subject holds, in whatever order the subjects are gone through.
-/

namespace RelationAuth

theorem Text.compareTexts_cons_ne_gt_iff {left right : String} {lefts rights : List String} :
    compareTexts (left :: lefts) (right :: rights) ≠ .gt ↔
      left < right ∨ left = right ∧ compareTexts lefts rights ≠ .gt := by
  rw [compareTexts, ne_eq, Ordering.then_eq_gt, compare_gt_iff_gt, compare_eq_iff_eq]
  grind

theorem Text.compareTexts_nil_ne_gt : (compareTexts [] [] ≠ .gt) = True := by
  simp [compareTexts]

namespace Policy

/-- Where a subject stands among others: ids come first, and each kind goes by its texts. -/
def Subject.rank : Subject → String ⊕ₗ (String ×ₗ String ×ₗ String)
  | id name => toLex (.inl name)
  | set holders =>
    toLex (.inr (toLex (holders.namespaceName, toLex (holders.object, holders.relation))))

/-- Where a tuple stands in a listing. -/
def RelationTuple.rank (tuple : RelationTuple) :
    String ×ₗ String ×ₗ String ×ₗ (String ⊕ₗ (String ×ₗ String ×ₗ String)) :=
  toLex (tuple.objectType, toLex (tuple.object, toLex (tuple.relation, tuple.subject.rank)))

theorem Subject.rank_injective : Function.Injective Subject.rank := by
  rintro (name | ⟨_, _, _⟩) (other | ⟨_, _, _⟩) same <;> simp_all [rank]

theorem Subject.compareTexts_sortKey {left right : Subject} :
    Text.compareTexts left.sortKey right.sortKey ≠ .gt ↔ left.rank ≤ right.rank := by
  have idsFirst : ("id" : String) < "set" := by decide
  rcases left with name | holders <;> rcases right with other | others
  · simp only [sortKey, rank, Text.compareTexts_cons_ne_gt_iff, Text.compareTexts_nil_ne_gt,
      lt_irrefl, false_or, true_and, and_true, Sum.Lex.inl_le_inl_iff]
    exact le_iff_lt_or_eq.symm
  · simp only [sortKey, rank, Text.compareTexts_cons_ne_gt_iff, idsFirst, true_or,
      Sum.Lex.inl_le_inr]
  · simp only [sortKey, rank, Text.compareTexts_cons_ne_gt_iff, idsFirst.not_gt, idsFirst.ne',
      false_and, or_self, Sum.Lex.not_inr_le_inl]
  · simp only [sortKey, rank, Text.compareTexts_cons_ne_gt_iff, Text.compareTexts_nil_ne_gt,
      lt_irrefl, false_or, true_and, and_true, Sum.Lex.inr_le_inr_iff, Prod.Lex.toLex_le_toLex]
    rw [← le_iff_lt_or_eq (a := holders.relation)]

/-- Tuples are listed in order of rank. -/
theorem RelationTuple.precedes_iff (left right : RelationTuple) :
    left.precedes right ↔ left.rank ≤ right.rank := by
  simp only [precedes, bne_iff_ne, sortKey, List.cons_append, List.nil_append,
    Text.compareTexts_cons_ne_gt_iff, Subject.compareTexts_sortKey, rank, Prod.Lex.toLex_le_toLex]

/-- Rank leaves out the namespace and the type of the subject. -/
theorem RelationTuple.rank_eq_iff {left right : RelationTuple} :
    left.rank = right.rank ↔ left.objectType = right.objectType ∧ left.object = right.object ∧
      left.relation = right.relation ∧ left.subject = right.subject := by
  simp [rank, Subject.rank_injective.eq_iff]

namespace TupleStore

variable {store other : TupleStore} {filter : TupleFilter}

theorem Reorders.addressable (reorders : other.Reorders store) (addressable : store.Addressable) :
    other.Addressable := by
  have same : other.size = store.size := (reorders.flatMap_right _).length_eq
  rwa [Addressable, same]

/-- Among all tuples, those of one subject stand as its edges do. -/
theorem filter_subject_tuples (store : TupleStore) (subject : Subject) :
    store.tuples.filter (·.subject = subject) = tuplesOf subject (store.edgesOf subject) := by
  have ofOne : ∀ (owner : Subject) (edges : List Edge), (tuplesOf owner edges).filter
      (·.subject = subject) = if owner = subject then tuplesOf owner edges else [] := by
    intro owner edges
    by_cases same : owner = subject <;> simp [tuplesOf, Edge.toTuple, same]
  have ofRows : ∀ rows : List (Subject × List Edge), (rows.map Prod.fst).Nodup →
      (rows.flatMap fun row => tuplesOf row.1 row.2).filter (·.subject = subject) =
        tuplesOf subject ((rows.lookup subject).getD []) := by
    intro rows nodup
    induction rows with
    | nil => rfl
    | cons row rest ih =>
      rcases row with ⟨owner, edges⟩
      rw [List.map_cons, List.nodup_cons] at nodup
      rw [List.flatMap_cons, List.filter_append, ofOne, ih nodup.2]
      by_cases same : owner = subject
      · subst same
        have absent : rest.lookup owner = none := by
          rw [List.lookup_eq_none_iff]
          rintro ⟨key, held⟩ mem
          have differs : owner ≠ key := by
            rintro rfl
            exact nodup.1 (List.mem_map_of_mem (f := Prod.fst) mem : (owner, held).1 ∈ rest.map Prod.fst)
          simpa using differs
        simp [absent, tuplesOf]
      · simp [same, Table.lookup_cons_of_ne (Ne.symm same)]
  exact ofRows store.bySubject.rows store.bySubject.nodup_keys

/-- A listing holds what a filter admits of all tuples, whether or not it names a subject. -/
theorem matching_eq (store : TupleStore) (filter : TupleFilter) :
    store.matching filter =
      (store.tuples.filter filter.admitsTuple).mergeSort RelationTuple.precedes := by
  suffices same : (store.candidates filter).filter filter.admitsTuple =
      store.tuples.filter filter.admitsTuple by
    rw [matching, same]
  unfold candidates
  split
  · rename_i subject named
    rw [← filter_subject_tuples, List.filter_filter]
    refine List.filter_congr fun tuple _ => ?_
    by_cases admitted : filter.admitsTuple tuple
    · have same : tuple.subject = subject := by
        simp only [TupleFilter.admitsTuple, named, Bool.and_eq_true,
          TupleFilter.admits_some_iff] at admitted
        exact admitted.2
      simp [admitted, same]
    · simp [admitted]
  · rfl

/-- A listing does not depend on the order in which the subjects are kept. -/
theorem Reorders.matching_eq (reorders : other.Reorders store) (filter : TupleFilter) :
    other.matching filter = store.matching filter := by
  rw [TupleStore.matching_eq, TupleStore.matching_eq]
  apply mergeSort_eq_of_agree RelationTuple.precedes_iff
  intro place
  by_cases taken : ∃ tuple : RelationTuple, tuple.rank = place
  · -- The tuples of one rank are among those of one subject.
    rcases taken with ⟨tuple, rfl⟩
    have ofSubject : ∀ either : TupleStore,
        (either.tuples.filter filter.admitsTuple).filter (·.rank = tuple.rank) =
          ((tuplesOf tuple.subject (either.edgesOf tuple.subject)).filter
            filter.admitsTuple).filter (·.rank = tuple.rank) := by
      intro either
      rw [← filter_subject_tuples, List.filter_filter, List.filter_filter, List.filter_filter]
      refine List.filter_congr fun held _ => ?_
      by_cases level : held.rank = tuple.rank
      · simp [level, (RelationTuple.rank_eq_iff.mp level).2.2.2]
      · simp [level]
    rw [ofSubject, ofSubject, reorders.edgesOf_eq]
  · have none : ∀ tuples : List RelationTuple, tuples.filter (·.rank = place) = [] := by
      intro tuples
      rw [List.filter_eq_nil_iff]
      intro tuple _ level
      exact taken ⟨tuple, by simpa using level⟩
    rw [none, none]

/-- A listing is the admitted tuples in another order. -/
theorem matching_perm (store : TupleStore) (filter : TupleFilter) :
    (store.matching filter).Perm (store.tuples.filter filter.admitsTuple) := by
  rw [matching_eq]
  exact List.mergeSort_perm _ _

theorem Unrepeated.nodup_matching (unrepeated : store.Unrepeated) (filter : TupleFilter) :
    (store.matching filter).Nodup :=
  (store.matching_perm filter).nodup_iff.mpr (unrepeated.nodup_tuples.filter _)

theorem pairwise_matching (store : TupleStore) (filter : TupleFilter) :
    (store.matching filter).Pairwise fun early late => early.rank ≤ late.rank :=
  pairwise_mergeSort_rank RelationTuple.precedes_iff _

end TupleStore

end Policy

end RelationAuth
