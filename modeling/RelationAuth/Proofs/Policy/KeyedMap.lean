import Mathlib.Data.List.DropRight
import Mathlib.Data.Set.Card
import RelationAuth.Policy.TupleRepository
import RelationAuth.Proofs.Policy.TupleStore

/-!
# The tuple store as a map

Whatever batches are written and deleted, the store is a map from keys to tuples: under a key stands
the tuple that was written first since the key was last deleted.

A batch makes one change after the other, so the proof goes back through the history of all changes,
beginning with the last one.  A write adds to what was written since the last deletion, and a deletion
of the key begins anew.
-/

namespace RelationAuth.Policy

/-- Something that is written or deleted: a tuple, or a batch of them. -/
inductive Change (α : Type) where
  | write (changed : α)
  | delete (changed : α)

namespace Change

variable {α : Type}

/-- The changes that a batch makes, one after the other. -/
def singly : Change (List α) → List (Change α)
  | write changed => changed.map write
  | delete changed => changed.map delete

/-- The batch that makes one change. -/
def alone : Change α → Change (List α)
  | write changed => write [changed]
  | delete changed => delete [changed]

/-- The tuple that a change writes under a key. -/
def writes? (key : TupleKey) : Change RelationTuple → Option RelationTuple
  | write tuple => if tuple.key = key then some tuple else none
  | delete _ => none

/-- Whether a change leaves a key in place. -/
def spares (key : TupleKey) : Change RelationTuple → Bool
  | write _ => true
  | delete tuple => tuple.key ≠ key

/-- What a batch does to the state of a repository. -/
def apply {σ : Type} (repository : TupleRepository σ) :
    Change (List RelationTuple) → σ → Except PolicyError σ
  | write tuples => repository.write tuples
  | delete tuples => repository.delete tuples

end Change

/-- What batches do to the state of a repository, one after the other. -/
def TupleRepository.applyAll {σ : Type} (repository : TupleRepository σ)
    (batches : List (Change (List RelationTuple))) (state : σ) : Except PolicyError σ :=
  batches.foldlM (fun state batch => batch.apply repository state) state

/-- The tuple that was first written under a key since the key was last deleted. -/
def standing? (history : List (Change RelationTuple)) (key : TupleKey) : Option RelationTuple :=
  (history.rtakeWhile (·.spares key)).findSome? (·.writes? key)

section History

variable {history : List (Change RelationTuple)} {tuple written deleted : RelationTuple}
  {key : TupleKey}

theorem key_of_standing (stands : standing? history key = some tuple) : tuple.key = key := by
  rcases List.exists_of_findSome?_eq_some stands with ⟨change, _, writes⟩
  cases change with
  | write other =>
    simp only [Change.writes?, Option.ite_none_right_eq_some, Option.some.injEq] at writes
    rcases writes with ⟨own, rfl⟩
    exact own
  | delete other => simp [Change.writes?] at writes

/-- A write stands under its key only if nothing stood there. -/
theorem standing_concat_write :
    standing? (history ++ [.write written]) key =
      (standing? history key).or (if written.key = key then some written else none) := by
  have kept : (Change.write written).spares key := rfl
  rw [standing?, List.rtakeWhile_concat_pos (Change.spares key) _ _ kept, List.findSome?_append]
  simp [standing?, Change.writes?]

theorem standing_concat_delete :
    standing? (history ++ [.delete deleted]) key =
      if deleted.key = key then none else standing? history key := by
  by_cases own : deleted.key = key
  · have begins : ¬(Change.delete deleted).spares key := by simp [Change.spares, own]
    rw [standing?, List.rtakeWhile_concat_neg (Change.spares key) _ _ begins, if_pos own]
    rfl
  · have kept : (Change.delete deleted).spares key := by simp [Change.spares, own]
    rw [standing?, List.rtakeWhile_concat_pos (Change.spares key) _ _ kept,
      List.findSome?_append, if_neg own]
    simp [standing?, Change.writes?]

end History

namespace TupleStore

variable {store : TupleStore} {tuple : RelationTuple}

/-- What a change of one tuple does to a store. -/
def change (store : TupleStore) : Change RelationTuple → TupleStore
  | .write tuple => store.writeOne tuple
  | .delete tuple => store.deleteOne tuple

/-- Batches are applied change by change. -/
theorem applyAll_inMemory (batches : List (Change (List RelationTuple))) (store : TupleStore) :
    TupleRepository.inMemory.applyAll batches store =
      .ok ((batches.flatMap Change.singly).foldl change store) := by
  induction batches generalizing store with
  | nil => rfl
  | cons batch rest ih =>
    have first : batch.apply TupleRepository.inMemory store =
        .ok (batch.singly.foldl change store) := by
      cases batch with
      | write tuples =>
        rw [Change.singly, List.foldl_map]
        rfl
      | delete tuples =>
        rw [Change.singly, List.foldl_map]
        rfl
    rw [List.flatMap_cons, List.foldl_append, ← ih]
    simp only [TupleRepository.applyAll, List.foldlM_cons, first]
    rfl

theorem Unrepeated.change (unrepeated : store.Unrepeated) (made : Change RelationTuple) :
    (store.change made).Unrepeated := by
  cases made with
  | write tuple => exact unrepeated.writeOne tuple
  | delete tuple => exact unrepeated.deleteOne tuple

theorem unrepeated_changes (history : List (Change RelationTuple)) :
    (history.foldl change empty).Unrepeated :=
  List.foldlRecOn history change Reachable.empty.unrepeated
    fun _ unrepeated made _ => unrepeated.change made

/-- What is stored after a history is what stands in it, by induction on the last change. -/
theorem mem_changes_iff (history : List (Change RelationTuple)) :
    tuple ∈ (history.foldl change empty).tuples ↔ standing? history tuple.key = some tuple := by
  induction history using List.reverseRecOn generalizing tuple with
  | nil => simp [standing?]
  | append_singleton history made ih =>
    rw [List.foldl_concat]
    cases made with
    | write written =>
      have stored : (history.foldl change empty).Stores written.key ↔
          ∃ other, standing? history written.key = some other := by
        constructor
        · rintro ⟨other, mem, same⟩
          exact ⟨other, same ▸ ih.mp mem⟩
        · rintro ⟨other, stands⟩
          have own := key_of_standing stands
          exact ⟨other, ih.mpr (own.symm ▸ stands), own⟩
      rw [change, mem_tuples_writeOne, ih, stored, standing_concat_write]
      rcases before : standing? history tuple.key with _ | other
      · by_cases own : written.key = tuple.key
        · rw [if_pos own, own, before]
          simp [eq_comm]
        · have differs : tuple ≠ written := fun same => own (congrArg RelationTuple.key same).symm
          simp [own, differs]
      · -- What stands already keeps its place, also if the same tuple is written again.
        rw [Option.some_or]
        refine or_iff_left ?_
        rintro ⟨rfl, free⟩
        exact free ⟨other, before⟩
    | delete deleted =>
      rw [change, mem_tuples_deleteOne, ih, standing_concat_delete]
      by_cases own : deleted.key = tuple.key
      · simp [own]
      · simp [own, Ne.symm own]

/-! ### No empty rows -/

/-- Whether every subject that is kept has an edge. -/
def Tidy (store : TupleStore) : Prop :=
  ∀ subject edges, store.bySubject.find? subject = some edges → edges ≠ []

theorem Tidy.insert (tidy : store.Tidy) {subject : Subject} {edges : List Edge}
    (some : edges ≠ []) : (TupleStore.mk (store.bySubject.insert subject edges)).Tidy := by
  intro other held found
  simp only [Table.find?_insert] at found
  split at found
  · cases found
    exact some
  · exact tidy other held found

/-- No change leaves a subject without an edge. -/
theorem Tidy.change (tidy : store.Tidy) (made : Change RelationTuple) :
    (store.change made).Tidy := by
  cases made with
  | write tuple =>
    simp only [TupleStore.change, writeOne]
    split
    · exact tidy
    · exact tidy.insert (by simp)
  | delete tuple =>
    simp only [TupleStore.change, deleteOne]
    split
    · exact tidy
    · split
      · intro other held found
        simp only [Table.find?_erase] at found
        split at found
        · cases found
        · exact tidy other held found
      · next nonempty => exact tidy.insert nonempty

theorem tidy_changes (history : List (Change RelationTuple)) :
    (history.foldl change empty).Tidy := by
  refine List.foldlRecOn history change ?_ fun _ tidy made _ => tidy.change made
  intro subject edges found
  simp [empty] at found

/-- The size of a store is the number of its keys. -/
theorem Unrepeated.size_eq_ncard (unrepeated : store.Unrepeated) :
    store.size = {key | store.Stores key}.ncard := by
  have keys : {key | store.Stores key} =
      ((store.tuples.map RelationTuple.key).toFinset : Set TupleKey) := by
    ext key
    simp [Stores]
  rw [keys, Set.ncard_coe_finset, List.toFinset_card_of_nodup unrepeated.nodup_keys,
    List.length_map, size]

/-- The store refines a map from keys to tuples.  After any batches no key is stored twice, a tuple
is stored exactly if it was the first one written since its key was last deleted, a key is held
exactly if it is stored, the size counts the stored keys, and no subject is kept without edges.
Batches make of the store what their changes make of it one by one, and a deletion leaves all tuples
of other keys as they are. -/
theorem batches_refine_keyed_map (batches : List (Change (List RelationTuple))) :
    ∃ store, TupleRepository.inMemory.applyAll batches .empty = .ok store ∧
      (store.tuples.map RelationTuple.key).Nodup ∧
      (∀ tuple, tuple ∈ store.tuples ↔
        standing? (batches.flatMap Change.singly) tuple.key = some tuple) ∧
      (∀ tuple, ∃ held, TupleRepository.inMemory.holds tuple store = .ok held ∧
        (held = true ↔ store.Stores tuple.key)) ∧
      store.size = {key | store.Stores key}.ncard ∧
      (∀ subject edges, store.bySubject.find? subject = some edges → edges ≠ []) ∧
      TupleRepository.inMemory.applyAll ((batches.flatMap Change.singly).map Change.alone) .empty =
        .ok store ∧
      ∀ deleted, ∃ after, TupleRepository.inMemory.delete deleted store = .ok after ∧
        ∀ tuple, (∀ other ∈ deleted, tuple.key ≠ other.key) →
          (tuple ∈ after.tuples ↔ tuple ∈ store.tuples) := by
  have unrepeated := unrepeated_changes (batches.flatMap Change.singly)
  refine ⟨_, applyAll_inMemory batches _, unrepeated.nodup_keys, fun _ => mem_changes_iff _, ?_,
    unrepeated.size_eq_ncard, tidy_changes _, ?_, ?_⟩
  · intro tuple
    exact ⟨_, rfl, holds_iff⟩
  · have alone : ∀ made : Change RelationTuple, made.alone.singly = [made] := by
      intro made
      cases made <;> rfl
    rw [applyAll_inMemory, List.flatMap_map]
    simp only [alone, List.flatMap_singleton']
  · intro deleted
    refine ⟨_, rfl, fun tuple kept => ?_⟩
    rw [mem_tuples_delete]
    exact and_iff_left kept

end TupleStore

end RelationAuth.Policy
