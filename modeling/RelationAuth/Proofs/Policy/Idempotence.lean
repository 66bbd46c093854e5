import RelationAuth.Proofs.Policy.Lasting

/-!
# Adding a request again

Adding a request refuses it, finds it granted, or writes its tuple.  After the write the probe of the
request may still fail, since it asks for the subject that a text names; then the tuple is written
once more, and the store, which has its key, stays as it is.  So whatever the probe says, adding
again changes nothing.
-/

namespace RelationAuth

/-- A value put under a key adds to what is drawn from the rows whatever it adds to what is drawn
from the value held before. -/
theorem Table.flatMap_insert_perm {κ α β : Type} [DecidableEq κ] {table : Table κ α} {key : κ}
    {value : α} (draw : κ × α → List β) (added : List β)
    (grows : (draw (key, value)).Perm
      (added ++ (table.find? key).elim [] fun held => draw (key, held))) :
    ((table.insert key value).rows.flatMap draw).Perm (added ++ table.rows.flatMap draw) := by
  have rows : ∀ rows : List (κ × α),
      (draw (key, value)).Perm (added ++ (rows.lookup key).elim [] fun held => draw (key, held)) →
      ((withRow key value rows).flatMap draw).Perm (added ++ rows.flatMap draw) := by
    intro rows grows
    induction rows with
    | nil => simpa [withRow] using grows
    | cons row rest ih =>
      rcases row with ⟨first, held⟩
      by_cases same : first = key
      · subst same
        have longer := grows.append_right (rest.flatMap draw)
        simpa [withRow] using longer
      · rw [lookup_cons_of_ne (Ne.symm same)] at grows
        have further := (ih grows).append_left (draw (first, held))
        simpa [withRow, same] using further.trans (List.perm_append_comm_assoc _ _ _)
  exact rows table.rows grows

namespace Policy

namespace TupleStore

variable {store : TupleStore} {tuple : RelationTuple}

/-- A tuple whose key is not stored comes to the others, which stay as they are. -/
theorem tuples_writeOne_perm (missing : ¬store.Stores tuple.key) :
    (store.writeOne tuple).tuples.Perm (tuple :: store.tuples) := by
  have grown : store.writeOne tuple = ⟨store.bySubject.insert tuple.subject
      (store.edgesOf tuple.subject ++ [Edge.ofTuple tuple])⟩ :=
    if_neg (mt holds_iff.mp missing)
  rw [grown]
  apply Table.flatMap_insert_perm (fun row => tuplesOf row.1 row.2) [tuple]
  have last : tuplesOf tuple.subject [Edge.ofTuple tuple] = [tuple] := rfl
  rcases held : store.bySubject.find? tuple.subject with _ | edges
  · simp [edgesOf, held, last]
  · have both : tuplesOf tuple.subject (edges ++ [Edge.ofTuple tuple]) =
        tuplesOf tuple.subject edges ++ [tuple] := by
      simp [tuplesOf, ← last]
    simp [edgesOf, held, both, List.perm_append_singleton]

/-- Writing a tuple whose key is stored changes nothing. -/
theorem write_of_stores (stored : store.Stores tuple.key) : store.write [tuple] = store := by
  have held : store.holds tuple := holds_iff.mpr stored
  exact if_pos held

/-- A store with a tuple written can be counted if there is room for one more. -/
theorem addressable_write_of_room (room : store.size + 1 < word64Bound) :
    (store.write [tuple]).Addressable := by
  by_cases stored : store.Stores tuple.key
  · rw [write_of_stores stored]
    exact Nat.lt_of_succ_lt room
  · have grown : (store.write [tuple]).size = store.size + 1 :=
      (tuples_writeOne_perm stored).length_eq
    rw [Addressable, grown]
    exact room

end TupleStore

/-- A request that describes no tuple is reported with the fault that its validation finds. -/
theorem RelationTuple.malformed_of_ofRequest {request : PolicyRequest} {cause : PolicyError}
    (invalid : RelationTuple.ofRequest request = .error cause) :
    ∃ fault, cause = .malformed fault ∧ request.validateWrite = .error (.malformed fault) := by
  unfold ofRequest at invalid
  rcases refused : request.validateWrite with other | _
  · rw [refused] at invalid
    obtain rfl : other = cause := Except.error.inj invalid
    unfold PolicyRequest.validateWrite at refused
    split at refused
    · next fault _ =>
      obtain rfl : PolicyError.malformed fault = other := Except.error.inj refused
      exact ⟨fault, rfl, rfl⟩
    · split at refused
      · obtain rfl : PolicyError.malformed .missingRelation = other := Except.error.inj refused
        exact ⟨.missingRelation, rfl, rfl⟩
      · cases refused
  · rw [refused] at invalid
    cases invalid

namespace LocalAgent

variable {store after : TupleStore} {schema : PermissionSchema} {request : PolicyRequest}
  {tuple : RelationTuple}

theorem perform_add_of_invalid {cause : PolicyError}
    (invalid : RelationTuple.ofRequest request = .error cause) :
    ((agent TupleRepository.inMemory schema).add request).perform store =
      (.error (.failure cause), store) := by
  simp [PolicyAgent.add, Action.perform_bind, invalid]

/-- What is added once is added again by doing nothing: either the probe succeeds as it did before,
or the tuple was written, and its key is stored. -/
theorem perform_add_again (room : store.size + 1 < word64Bound)
    (added : ((agent TupleRepository.inMemory schema).add request).perform store =
      (.ok (), after)) :
    ((agent TupleRepository.inMemory schema).add request).perform after = (.ok (), after) := by
  rcases after_add added with ⟨tuple, described, ⟨probe, rfl⟩ | ⟨probe, rfl⟩⟩
  · exact added
  · have stored : (store.write [tuple]).Stores tuple.key := by
      apply TupleStore.stores_write.mpr
      exact .inr ⟨tuple, List.mem_singleton_self tuple, rfl⟩
    have addressable : (store.write [tuple]).Addressable :=
      TupleStore.addressable_write_of_room room
    rw [perform_add schema addressable described, TupleStore.write_of_stores stored, ite_self]

/-- Adding is idempotent.  A request that is not valid is refused and leaves the store alone.  Any
other request is added, which leaves the tuples of the store as they are and lets at most one come to
them: the tuple of the request, if its key is not stored yet.  Adding the request again, however
often, succeeds and changes nothing.  All of this holds for every schema and for every subject, be it
one that its text does not name. -/
theorem adding_is_idempotent (store : TupleStore) (schema : PermissionSchema)
    (request : PolicyRequest) (room : store.size + 1 < word64Bound) :
    (∃ fault, request.validateWrite = .error (.malformed fault) ∧
      ((agent TupleRepository.inMemory schema).add request).perform store =
        (.error (.failure (.malformed fault)), store)) ∨
    ∃ tuple after, RelationTuple.ofRequest request = .ok tuple ∧
      ((agent TupleRepository.inMemory schema).add request).perform store = (.ok (), after) ∧
      (after = store ∨
        ¬store.Stores tuple.key ∧ after.tuples.Perm (tuple :: store.tuples)) ∧
      ∀ times, ((List.replicate times request).forM
        (agent TupleRepository.inMemory schema).add).perform after = (.ok ⟨⟩, after) := by
  rcases described : RelationTuple.ofRequest request with cause | tuple
  · left
    rcases RelationTuple.malformed_of_ofRequest described with ⟨fault, rfl, invalid⟩
    exact ⟨fault, invalid, perform_add_of_invalid described⟩
  · right
    have addressable : store.Addressable := Nat.lt_of_succ_lt room
    have added := perform_add schema addressable described
    refine ⟨tuple, _, rfl, added, ?_, ?_⟩
    · split
      · exact .inl rfl
      · by_cases stored : store.Stores tuple.key
        · exact .inl (TupleStore.write_of_stores stored)
        · exact .inr ⟨stored, TupleStore.tuples_writeOne_perm stored⟩
    · intro times
      apply Action.perform_forM_of_leaves
      intro again among
      rw [List.eq_of_mem_replicate among]
      exact perform_add_again room added

/-- The store in which bob is in the team, and no one views the group. -/
def teamOfBob : TupleStore :=
  TupleStore.empty.write [bobInTeam]

/-- A request whose subject does not read back is written once, although its probe fails before and
after. -/
theorem adding_is_idempotent_misnamedRequest :
    teamOfBob.size + 1 < word64Bound ∧
      (teamOfBob.write [misnamedTuple]).satisfies .groupsSchema misnamedTuple = false ∧
      (inMemory.add misnamedRequest).perform teamOfBob =
        (.ok (), teamOfBob.write [misnamedTuple]) ∧
      (teamOfBob.write [misnamedTuple]).tuples.Perm (misnamedTuple :: teamOfBob.tuples) ∧
      ∀ times, ((List.replicate times misnamedRequest).forM inMemory.add).perform
        (teamOfBob.write [misnamedTuple]) = (.ok ⟨⟩, teamOfBob.write [misnamedTuple]) := by
  have room : teamOfBob.size + 1 < word64Bound := by decide
  have described : RelationTuple.ofRequest misnamedRequest = .ok misnamedTuple :=
    RelationTuple.ofRequest_eq_ok_iff.mpr ⟨by decide, by decide⟩
  have unsatisfied : teamOfBob.satisfies .groupsSchema misnamedTuple = false := by
    decide +kernel
  have added := perform_add .groupsSchema (Nat.lt_of_succ_lt room) described
  rw [unsatisfied] at added
  rcases adding_is_idempotent teamOfBob .groupsSchema misnamedRequest room with
    ⟨fault, -, refused⟩ | ⟨tuple, after, describedToo, addedToo, change, again⟩
  · rw [added] at refused
    cases refused
  obtain rfl : misnamedTuple = tuple := Except.ok.inj (described.symm.trans describedToo)
  obtain rfl : teamOfBob.write [misnamedTuple] = after :=
    (Prod.mk.inj (added.symm.trans addedToo)).2
  refine ⟨room, by decide +kernel, added, ?_, again⟩
  rcases change with same | ⟨-, grown⟩
  · have longer : (teamOfBob.write [misnamedTuple]).size ≠ teamOfBob.size := by decide
    exact absurd (congrArg TupleStore.size same) longer
  · exact grown

end LocalAgent

end Policy

end RelationAuth
