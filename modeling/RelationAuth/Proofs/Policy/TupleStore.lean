import Mathlib.Data.List.Flatten
import RelationAuth.Policy.TupleStore
import RelationAuth.Proofs.Table

/-!
# Laws of the tuple store

The store is known by its tuples.  Writing adds the tuples whose keys are not stored yet, deleting
takes away the tuples of some keys, and a look-up asks whether a key is stored.
-/

namespace RelationAuth

/-- A value put under a key leaves what is drawn from the rows, and adds to it, if it adds to what
is drawn from the value held before. -/
theorem Table.flatMap_sublist_insert {κ α β : Type} [DecidableEq κ] {table : Table κ α} {key : κ}
    {value : α} (draw : κ × α → List β)
    (grows : ∀ held, table.find? key = some held → (draw (key, held)).Sublist (draw (key, value))) :
    (table.rows.flatMap draw).Sublist ((table.insert key value).rows.flatMap draw) := by
  have rows : ∀ rows : List (κ × α),
      (∀ held, rows.lookup key = some held → (draw (key, held)).Sublist (draw (key, value))) →
      (rows.flatMap draw).Sublist ((withRow key value rows).flatMap draw) := by
    intro rows grows
    induction rows with
    | nil => simp
    | cons row rest ih =>
      rcases row with ⟨first, held⟩
      by_cases same : first = key
      · subst same
        simpa [withRow] using (grows held (by simp)).append (List.Sublist.refl (rest.flatMap draw))
      · have further := ih fun other found =>
          grows other (by rwa [lookup_cons_of_ne (Ne.symm same)])
        simpa [withRow, same] using (List.Sublist.refl (draw (first, held))).append further
  exact rows table.rows grows

/-- A value put in the place of another takes nothing in but what is drawn from the rows, if it
takes nothing in but what is drawn from the other. -/
theorem Table.flatMap_insert_sublist {κ α β : Type} [DecidableEq κ] {table : Table κ α} {key : κ}
    {held value : α} (draw : κ × α → List β) (found : table.find? key = some held)
    (shrinks : (draw (key, value)).Sublist (draw (key, held))) :
    ((table.insert key value).rows.flatMap draw).Sublist (table.rows.flatMap draw) := by
  have rows : ∀ rows : List (κ × α), rows.lookup key = some held →
      ((withRow key value rows).flatMap draw).Sublist (rows.flatMap draw) := by
    intro rows found
    induction rows with
    | nil => simp at found
    | cons row rest ih =>
      rcases row with ⟨first, other⟩
      by_cases same : first = key
      · subst same
        obtain rfl : other = held := by simpa using found
        simpa [withRow] using shrinks.append (List.Sublist.refl (rest.flatMap draw))
      · rw [lookup_cons_of_ne (Ne.symm same)] at found
        simpa [withRow, same] using (List.Sublist.refl (draw (first, other))).append (ih found)
  exact rows table.rows found

namespace Policy

theorem Edge.toTuple_eq_iff {edge : Edge} {subject : Subject} {tuple : RelationTuple} :
    edge.toTuple subject = tuple ↔ edge = Edge.ofTuple tuple ∧ subject = tuple.subject := by
  constructor
  · rintro rfl
    exact ⟨rfl, rfl⟩
  · rintro ⟨rfl, rfl⟩
    rfl

/-- The key of an edge is that of the tuple which it stands for. -/
theorem Edge.sameKey_iff {edge : Edge} {tuple : RelationTuple} :
    edge.sameKey tuple ↔ (edge.toTuple tuple.subject).key = tuple.key := by
  simp only [Edge.sameKey, Bool.and_eq_true, decide_eq_true_eq]
  simp [RelationTuple.key, Edge.toTuple, and_assoc]

namespace TupleStore

variable {store : TupleStore} {tuple : RelationTuple} {key : TupleKey}

/-- Whether a store has a tuple with a key. -/
def Stores (store : TupleStore) (key : TupleKey) : Prop :=
  ∃ tuple ∈ store.tuples, tuple.key = key

/-- A tuple is stored exactly if its edge is kept under its subject. -/
theorem mem_tuples_iff :
    tuple ∈ store.tuples ↔ Edge.ofTuple tuple ∈ store.edgesOf tuple.subject := by
  simp only [tuples, tuplesOf, List.mem_flatMap, List.mem_map, Edge.toTuple_eq_iff, Prod.exists,
    Table.mem_rows_iff, edgesOf]
  constructor
  · rintro ⟨subject, edges, found, edge, mem, rfl, rfl⟩
    simpa [found] using mem
  · intro mem
    rcases found : store.bySubject.find? tuple.subject with _ | edges
    · simp [found] at mem
    · exact ⟨_, edges, found, _, by simpa [found] using mem, rfl, rfl⟩

@[simp]
theorem tuples_empty : TupleStore.empty.tuples = [] :=
  rfl

/-- An edge that agrees with a tuple is an edge of a stored tuple with the same key. -/
theorem exists_sameKey_iff :
    (∃ edge ∈ store.edgesOf tuple.subject, edge.sameKey tuple) ↔ store.Stores tuple.key := by
  constructor
  · rintro ⟨edge, mem, same⟩
    exact ⟨edge.toTuple tuple.subject, mem_tuples_iff.mpr mem, Edge.sameKey_iff.mp same⟩
  · rintro ⟨other, mem, same⟩
    have subject : other.subject = tuple.subject := congrArg TupleKey.subject same
    refine ⟨Edge.ofTuple other, subject ▸ mem_tuples_iff.mp mem, Edge.sameKey_iff.mpr ?_⟩
    rw [← subject]
    exact same

theorem holds_iff : store.holds tuple ↔ store.Stores tuple.key := by
  rw [← exists_sameKey_iff]
  simp [holds]

theorem edgesOf_writeOne (store : TupleStore) (tuple : RelationTuple) (subject : Subject) :
    (store.writeOne tuple).edgesOf subject =
      if subject = tuple.subject ∧ ¬store.holds tuple then
        store.edgesOf subject ++ [Edge.ofTuple tuple]
      else store.edgesOf subject := by
  by_cases held : store.holds tuple
  · have kept : store.writeOne tuple = store := if_pos held
    simp [kept, held]
  · have grown : store.writeOne tuple = ⟨store.bySubject.insert tuple.subject
        (store.edgesOf tuple.subject ++ [Edge.ofTuple tuple])⟩ := if_neg held
    by_cases same : subject = tuple.subject <;>
      simp [grown, edgesOf, Table.find?_insert, same, held]

/-- A write adds its tuple unless the key is stored, and nothing else. -/
theorem mem_tuples_writeOne {other : RelationTuple} :
    other ∈ (store.writeOne tuple).tuples ↔
      other ∈ store.tuples ∨ other = tuple ∧ ¬store.Stores tuple.key := by
  rw [mem_tuples_iff, mem_tuples_iff, edgesOf_writeOne, ← holds_iff]
  by_cases same : other.subject = tuple.subject
  · have sameEdge : Edge.ofTuple other = Edge.ofTuple tuple ↔ other = tuple := by
      constructor
      · intro equal
        calc other = (Edge.ofTuple other).toTuple tuple.subject :=
              (Edge.toTuple_eq_iff.mpr ⟨rfl, same.symm⟩).symm
          _ = (Edge.ofTuple tuple).toTuple tuple.subject := by rw [equal]
          _ = tuple := rfl
      · rintro rfl
        rfl
    by_cases held : store.holds tuple <;> simp [same, held, sameEdge]
  · have differs : other ≠ tuple := fun equal => same (congrArg RelationTuple.subject equal)
    simp [same, differs]

theorem stores_writeOne :
    (store.writeOne tuple).Stores key ↔ store.Stores key ∨ tuple.key = key := by
  simp only [Stores, mem_tuples_writeOne]
  constructor
  · rintro ⟨other, mem | ⟨rfl, _⟩, rfl⟩
    · exact Or.inl ⟨other, mem, rfl⟩
    · exact Or.inr rfl
  · rintro (⟨other, mem, same⟩ | same)
    · exact ⟨other, Or.inl mem, same⟩
    · by_cases held : store.Stores tuple.key
      · rcases held with ⟨other, mem, equal⟩
        exact ⟨other, Or.inl mem, equal.trans same⟩
      · exact ⟨tuple, Or.inr ⟨rfl, held⟩, same⟩

theorem stores_write {written : List RelationTuple} :
    (store.write written).Stores key ↔ store.Stores key ∨ ∃ tuple ∈ written, tuple.key = key := by
  induction written generalizing store with
  | nil => simp [write]
  | cons first rest ih =>
    have step : store.write (first :: rest) = (store.writeOne first).write rest := rfl
    rw [step, ih, stores_writeOne]
    simp [or_assoc]

theorem mem_or_mem_of_mem_write {written : List RelationTuple}
    (mem : tuple ∈ (store.write written).tuples) : tuple ∈ store.tuples ∨ tuple ∈ written := by
  induction written generalizing store with
  | nil => exact Or.inl mem
  | cons first rest ih =>
    have memRest : tuple ∈ ((store.writeOne first).write rest).tuples := mem
    rcases ih memRest with old | later
    · rcases mem_tuples_writeOne.mp old with older | ⟨rfl, _⟩
      · exact Or.inl older
      · exact Or.inr List.mem_cons_self
    · exact Or.inr (List.mem_cons_of_mem _ later)

theorem tuples_sublist_writeOne : store.tuples.Sublist (store.writeOne tuple).tuples := by
  unfold writeOne
  simp only
  split
  · exact List.Sublist.refl _
  · refine Table.flatMap_sublist_insert (fun row => tuplesOf row.1 row.2) ?_
    intro held found
    simp [tuplesOf, edgesOf, found]

theorem tuples_sublist_write {written : List RelationTuple} :
    store.tuples.Sublist (store.write written).tuples := by
  induction written generalizing store with
  | nil => exact List.Sublist.refl _
  | cons first rest ih => exact tuples_sublist_writeOne.trans ih

theorem edgesOf_deleteOne (store : TupleStore) (tuple : RelationTuple) (subject : Subject) :
    (store.deleteOne tuple).edgesOf subject =
      if subject = tuple.subject then
        (store.edgesOf subject).filter fun edge => !edge.sameKey tuple
      else store.edgesOf subject := by
  unfold deleteOne
  split
  · rename_i missing
    by_cases same : subject = tuple.subject <;> simp [edgesOf, same, missing]
  · rename_i edges found
    split
    · rename_i none
      by_cases same : subject = tuple.subject <;>
        simp [edgesOf, Table.find?_erase, same, found, none]
    · by_cases same : subject = tuple.subject <;>
        simp [edgesOf, Table.find?_insert, same, found]

/-- A deletion takes the tuples of its key, whatever their types. -/
theorem mem_tuples_deleteOne {other : RelationTuple} :
    other ∈ (store.deleteOne tuple).tuples ↔ other ∈ store.tuples ∧ other.key ≠ tuple.key := by
  rw [mem_tuples_iff, mem_tuples_iff, edgesOf_deleteOne]
  by_cases same : other.subject = tuple.subject
  · have sameKey : (Edge.ofTuple other).sameKey tuple ↔ other.key = tuple.key := by
      rw [Edge.sameKey_iff, ← same]
      rfl
    simp only [same, if_true, List.mem_filter, Bool.not_eq_true', ← Bool.not_eq_true, sameKey, ne_eq]
  · have differs : other.key ≠ tuple.key := fun equal => same (congrArg TupleKey.subject equal)
    simp [same, differs]

theorem mem_tuples_delete {deleted : List RelationTuple} :
    tuple ∈ (store.delete deleted).tuples ↔
      tuple ∈ store.tuples ∧ ∀ other ∈ deleted, tuple.key ≠ other.key := by
  induction deleted generalizing store with
  | nil => simp [delete]
  | cons first rest ih =>
    have step : store.delete (first :: rest) = (store.deleteOne first).delete rest := rfl
    rw [step, ih, mem_tuples_deleteOne]
    simp [and_assoc]

theorem stores_delete {deleted : List RelationTuple} :
    (store.delete deleted).Stores key ↔
      store.Stores key ∧ ∀ other ∈ deleted, key ≠ other.key := by
  simp only [Stores, mem_tuples_delete]
  constructor
  · rintro ⟨tuple, ⟨mem, kept⟩, rfl⟩
    exact ⟨⟨tuple, mem, rfl⟩, kept⟩
  · rintro ⟨⟨tuple, mem, rfl⟩, kept⟩
    exact ⟨tuple, ⟨mem, kept⟩, rfl⟩

theorem tuples_deleteOne_sublist : (store.deleteOne tuple).tuples.Sublist store.tuples := by
  unfold deleteOne
  split
  · exact List.Sublist.refl _
  · rename_i edges found
    split
    · exact List.filter_sublist.flatMap _
    · rename_i kept
      refine Table.flatMap_insert_sublist (fun row => tuplesOf row.1 row.2) found ?_
      exact List.filter_sublist.map _

theorem tuples_delete_sublist {deleted : List RelationTuple} :
    (store.delete deleted).tuples.Sublist store.tuples := by
  induction deleted generalizing store with
  | nil => exact List.Sublist.refl _
  | cons first rest ih => exact ih.trans tuples_deleteOne_sublist

/-! ### The states of a store -/

/-- Whether two stores differ at most in the order in which their subjects are gone through. -/
def Reorders (other store : TupleStore) : Prop :=
  other.bySubject.rows.Perm store.bySubject.rows

instance {other : TupleStore} : Decidable (other.Reorders store) :=
  inferInstanceAs (Decidable (other.bySubject.rows.Perm store.bySubject.rows))

theorem Reorders.edgesOf_eq {other : TupleStore} (reorders : other.Reorders store)
    (subject : Subject) : other.edgesOf subject = store.edgesOf subject := by
  have found : other.bySubject.find? subject = store.bySubject.find? subject := by
    apply Option.ext
    intro edges
    rw [← Table.mem_rows_iff, ← Table.mem_rows_iff]
    exact reorders.mem_iff
  rw [edgesOf, edgesOf, found]

/-- The states of a store: what writing and deleting make of the empty one.  At any time its
subjects may be gone through in another order. -/
inductive Reachable : TupleStore → Prop where
  | empty : Reachable .empty
  | write {store : TupleStore} (before : Reachable store) (tuples : List RelationTuple) :
      Reachable (store.write tuples)
  | delete {store : TupleStore} (before : Reachable store) (tuples : List RelationTuple) :
      Reachable (store.delete tuples)
  | reorder {store other : TupleStore} (before : Reachable store)
      (reorders : other.Reorders store) : Reachable other

/-- Whether no subject has two edges of one key. -/
def Unrepeated (store : TupleStore) : Prop :=
  ∀ subject, (store.edgesOf subject).Pairwise fun early late =>
    (early.toTuple subject).key ≠ (late.toTuple subject).key

theorem Unrepeated.writeOne (unrepeated : store.Unrepeated) (tuple : RelationTuple) :
    (store.writeOne tuple).Unrepeated := by
  intro subject
  rw [edgesOf_writeOne]
  split
  · rename_i new
    rcases new with ⟨rfl, missing⟩
    refine List.pairwise_append.mpr ⟨unrepeated tuple.subject, List.pairwise_singleton _ _, ?_⟩
    intro edge mem other last same
    rw [List.mem_singleton.mp last] at same
    exact missing (List.any_eq_true.mpr ⟨edge, mem, Edge.sameKey_iff.mpr same⟩)
  · exact unrepeated subject

theorem Unrepeated.deleteOne (unrepeated : store.Unrepeated) (tuple : RelationTuple) :
    (store.deleteOne tuple).Unrepeated := by
  intro subject
  rw [edgesOf_deleteOne]
  split
  · exact (unrepeated subject).filter _
  · exact unrepeated subject

theorem Unrepeated.write (unrepeated : store.Unrepeated) (tuples : List RelationTuple) :
    (store.write tuples).Unrepeated :=
  List.foldlRecOn tuples TupleStore.writeOne unrepeated fun _ kept tuple _ => kept.writeOne tuple

theorem Unrepeated.delete (unrepeated : store.Unrepeated) (tuples : List RelationTuple) :
    (store.delete tuples).Unrepeated :=
  List.foldlRecOn tuples TupleStore.deleteOne unrepeated fun _ kept tuple _ => kept.deleteOne tuple

/-- No key is stored twice in any store that writes, deletions and reorderings lead to. -/
theorem Reachable.unrepeated (reachable : store.Reachable) : store.Unrepeated := by
  induction reachable with
  | empty =>
    intro subject
    simp [TupleStore.empty, edgesOf]
  | write before tuples ih => exact ih.write tuples
  | delete before tuples ih => exact ih.delete tuples
  | reorder before reorders ih =>
    intro subject
    rw [reorders.edgesOf_eq]
    exact ih subject

/-- No key is stored twice. -/
theorem Unrepeated.nodup_keys (unrepeated : store.Unrepeated) :
    (store.tuples.map RelationTuple.key).Nodup := by
  rw [List.Nodup, List.pairwise_map, tuples, List.pairwise_flatMap]
  constructor
  · rintro ⟨subject, edges⟩ row
    have held : store.edgesOf subject = edges := by
      rw [edgesOf, Table.mem_rows_iff.mp row, Option.getD_some]
    rw [tuplesOf, List.pairwise_map, ← held]
    exact unrepeated subject
  · refine (List.pairwise_map.mp store.bySubject.nodup_keys).imp ?_
    rintro ⟨subject, edges⟩ ⟨other, others⟩ differ early earlyMem late lateMem same
    simp only [tuplesOf, List.mem_map] at earlyMem lateMem
    rcases earlyMem with ⟨_, _, rfl⟩
    rcases lateMem with ⟨_, _, rfl⟩
    exact differ (congrArg TupleKey.subject same)

theorem Unrepeated.nodup_tuples (unrepeated : store.Unrepeated) : store.tuples.Nodup :=
  unrepeated.nodup_keys.of_map

theorem Unrepeated.eq_of_key_eq (unrepeated : store.Unrepeated) {other : RelationTuple}
    (mem : tuple ∈ store.tuples) (otherMem : other ∈ store.tuples) (same : tuple.key = other.key) :
    tuple = other :=
  List.inj_on_of_nodup_map unrepeated.nodup_keys mem otherMem same

end TupleStore

end Policy

end RelationAuth
