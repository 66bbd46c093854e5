import Mathlib.Data.List.Nodup
import Mathlib.Order.Lattice

/-!
# Lists in the order of a rank

A stable sort puts values in the order of their ranks and keeps those of one rank as they stand.
Two lists in the order of their ranks are the same if they hold the same values at every rank.  Where
no two values have one rank, sorting leaves no choice at all.
-/

namespace RelationAuth

variable {α β : Type} [LinearOrder β] {rank : α → β}

/-- Two lists in order of rank are equal if they hold the same values, in the same order, at every
rank. -/
theorem eq_of_agree_at_ranks {left right : List α}
    (leftOrdered : left.Pairwise fun early late => rank early ≤ rank late)
    (rightOrdered : right.Pairwise fun early late => rank early ≤ rank late)
    (agree : ∀ place, left.filter (rank · = place) = right.filter (rank · = place)) :
    left = right := by
  induction left generalizing right with
  | nil =>
    rcases right with _ | ⟨second, others⟩
    · rfl
    · simpa using agree (rank second)
  | cons first rest ih =>
    rcases right with _ | ⟨second, others⟩
    · simpa using agree (rank first)
    rw [List.pairwise_cons] at leftOrdered rightOrdered
    -- Each of the two heads occurs in the other list, so neither of them ranks before the other.
    have firstMem : first ∈ second :: others := by
      have mem : first ∈ (first :: rest).filter (rank · = rank first) := by simp
      rw [agree] at mem
      exact (List.mem_filter.mp mem).1
    have secondMem : second ∈ first :: rest := by
      have mem : second ∈ (second :: others).filter (rank · = rank second) := by simp
      rw [← agree] at mem
      exact (List.mem_filter.mp mem).1
    have level : rank first = rank second := by
      apply le_antisymm
      · rcases List.mem_cons.mp secondMem with same | later
        · rw [same]
        · exact leftOrdered.1 second later
      · rcases List.mem_cons.mp firstMem with same | later
        · rw [same]
        · exact rightOrdered.1 first later
    have heads := agree (rank first)
    simp only [List.filter_cons, level, decide_true, if_true, List.cons.injEq] at heads
    rcases heads with ⟨rfl, _⟩
    refine congrArg (first :: ·) (ih leftOrdered.2 rightOrdered.2 fun place => ?_)
    have tails := agree place
    by_cases here : rank first = place
    · simpa [List.filter_cons, here] using tails
    · simpa [List.filter_cons, here] using tails

section Sorting

variable {precedes : α → α → Bool}
  (ranked : ∀ early late, precedes early late ↔ rank early ≤ rank late)

include ranked

theorem transitive_of_ranked (first second third : α) (early : precedes first second)
    (late : precedes second third) : precedes first third := by
  rw [ranked] at early late ⊢
  exact early.trans late

theorem total_of_ranked (early late : α) : precedes early late || precedes late early := by
  rw [Bool.or_eq_true, ranked, ranked]
  exact le_total _ _

/-- Sorting puts the values in order of rank. -/
theorem pairwise_mergeSort_rank (values : List α) :
    (values.mergeSort precedes).Pairwise fun early late => rank early ≤ rank late := by
  have sorted := List.pairwise_mergeSort (transitive_of_ranked ranked) (total_of_ranked ranked) values
  exact sorted.imp fun {early late} => (ranked early late).mp

/-- Values with distinct ranks are sorted into the strict order of their ranks. -/
theorem pairwise_mergeSort_rank_lt {values : List α} (distinct : (values.map rank).Nodup) :
    (values.mergeSort precedes).Pairwise fun early late => rank early < rank late := by
  have differ : (values.mergeSort precedes).Pairwise fun early late => rank early ≠ rank late :=
    List.pairwise_map.mp (((List.mergeSort_perm values precedes).map rank).nodup_iff.mpr distinct)
  exact ((pairwise_mergeSort_rank ranked values).and differ).imp fun ⟨ordered, unequal⟩ =>
    lt_of_le_of_ne ordered unequal

/-- Sorting keeps the order of values of one rank. -/
theorem filter_rank_mergeSort (values : List α) (place : β) :
    (values.mergeSort precedes).filter (rank · = place) = values.filter (rank · = place) := by
  have level : (values.filter (rank · = place)).Pairwise fun early late => precedes early late := by
    apply List.pairwise_of_forall_mem_list
    intro early earlyMem late lateMem
    simp only [List.mem_filter, decide_eq_true_eq] at earlyMem lateMem
    rw [ranked, earlyMem.2, lateMem.2]
  have kept := (List.sublist_mergeSort (transitive_of_ranked ranked) (total_of_ranked ranked) level
    List.filter_sublist).filter (rank · = place)
  simp only [List.filter_filter, Bool.and_self] at kept
  refine (kept.eq_of_length ?_).symm
  exact ((List.mergeSort_perm values precedes).filter _).length_eq.symm

/-- What a stable sort makes of a list is determined by what stands at each rank. -/
theorem mergeSort_eq_of_agree {left right : List α}
    (agree : ∀ place, left.filter (rank · = place) = right.filter (rank · = place)) :
    left.mergeSort precedes = right.mergeSort precedes := by
  apply eq_of_agree_at_ranks (pairwise_mergeSort_rank ranked left)
    (pairwise_mergeSort_rank ranked right)
  intro place
  rw [filter_rank_mergeSort ranked, filter_rank_mergeSort ranked, agree]

/-- What a sort makes of values with distinct ranks does not depend on the order they come in. -/
theorem mergeSort_eq_of_perm {left right : List α} (perm : left.Perm right)
    (distinct : (left.map rank).Nodup) : left.mergeSort precedes = right.mergeSort precedes := by
  have sorted : (left.mergeSort precedes).Perm (right.mergeSort precedes) :=
    ((List.mergeSort_perm left precedes).trans perm).trans (List.mergeSort_perm right precedes).symm
  refine sorted.eq_of_pairwise ?_ (pairwise_mergeSort_rank ranked left)
    (pairwise_mergeSort_rank ranked right)
  intro early late earlyMem lateMem before after
  rw [List.mem_mergeSort] at earlyMem lateMem
  exact List.inj_on_of_nodup_map distinct earlyMem (perm.mem_iff.mpr lateMem)
    (le_antisymm before after)

end Sorting

end RelationAuth
