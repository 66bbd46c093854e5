import RelationAuth.Proofs.Groups.Runs

/-!
# Rows of members

Assigning puts ids into the rows of one group and kind and takes none out, and unassigning takes
them out again.  All other rows stay as they are.
-/

namespace RelationAuth.Groups

theorem mem_insertId {id other : String} {ids : List String} :
    other ∈ insertId id ids ↔ other = id ∨ other ∈ ids := by
  induction ids with
  | nil => simp [insertId]
  | cons first rest ih =>
    rw [insertId]
    split
    · simp
    · split
      · next same => simp [same]
      · simp only [List.mem_cons, ih]
        exact or_left_comm

theorem mem_foldl_insertId {ids rows : List String} {other : String} :
    other ∈ ids.foldl (fun rows id => insertId id rows) rows ↔ other ∈ rows ∨ other ∈ ids := by
  induction ids generalizing rows with
  | nil => simp
  | cons id rest ih =>
    simp only [List.foldl_cons, ih, mem_insertId, List.mem_cons]
    rw [← or_assoc, @or_comm (other ∈ rows)]

namespace GroupStore

variable {store after : GroupStore} {groupId kind otherId otherKind member : String}
  {ids : List String}

theorem mem_memberIds_assign (assigned : store.assign groupId kind ids = .ok after) :
    member ∈ after.memberIds otherId otherKind ↔
      member ∈ store.memberIds otherId otherKind ∨
        (otherId = groupId ∧ otherKind = kind) ∧ member ∈ ids := by
  rw [memberIds, members_assign assigned]
  split
  · next own =>
    rw [Prod.mk.injEq] at own
    rcases own with ⟨rfl, rfl⟩
    rw [Option.getD_some, mem_foldl_insertId]
    simp
  · next differs =>
    rw [Prod.mk.injEq] at differs
    simp [differs, memberIds]

theorem mem_memberIds_unassign (unassigned : store.unassign groupId kind ids = .ok after) :
    member ∈ after.memberIds otherId otherKind ↔
      member ∈ store.memberIds otherId otherKind ∧
        ¬((otherId = groupId ∧ otherKind = kind) ∧ member ∈ ids) := by
  rw [memberIds, members_unassign unassigned]
  split
  · next own =>
    rw [Prod.mk.injEq] at own
    rcases own with ⟨rfl, rfl⟩
    rcases held : store.members.find? (otherId, otherKind) with _ | rows <;>
      simp [memberIds, held]
  · next differs =>
    rw [Prod.mk.injEq] at differs
    simp [differs, memberIds]

end GroupStore

end RelationAuth.Groups
