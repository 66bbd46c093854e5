import RelationAuth.Groups.GroupRepository
import RelationAuth.Proofs.Action
import RelationAuth.Proofs.Groups.Lineage

/-!
# Runs of calls on a repository

Callers change a repository in memory by calls, some of which are refused.  Whatever the calls, as
long as no saved id holds a point, the stored groups form a hierarchy and every row of members
belongs to one of them; so the listings of ancestors and descendants follow the parent pointers.
-/

namespace RelationAuth.Groups

/-- A call that may change what a repository keeps. -/
inductive RepositoryCall where
  | save (group : Group)
  | update (amendment : GroupAmendment)
  | changeStatus (id : String) (status : Status) (moment : Instant) (editor : String)
  | delete (id : String)
  | assign (groupId kind : String) (ids : List String)
  | unassign (groupId kind : String) (ids : List String)

theorem exists_fst_of_map_snd_eq_ok {ε α β : Type} {answer : Except ε (α × β)} {second : β}
    (mapped : answer.map Prod.snd = .ok second) : ∃ first, answer = .ok (first, second) := by
  rcases answer with cause | ⟨first, _⟩
  · cases mapped
  · cases mapped
    exact ⟨first, rfl⟩

namespace RepositoryCall

/-- What a call does, its answer left out. -/
def run {σ : Type} (repository : GroupRepository σ) : RepositoryCall → Action σ GroupError Unit
  | save group => do
    let _ ← repository.save group
  | update amendment => do
    let _ ← repository.update amendment
  | changeStatus id status moment editor => do
    let _ ← repository.changeStatus id status moment editor
  | delete id => repository.delete id
  | assign groupId kind ids => repository.assign groupId kind ids
  | unassign groupId kind ids => repository.unassign groupId kind ids

/-- Whether a call saves no group whose id holds a point. -/
def PlainId : RepositoryCall → Prop
  | save group => '.' ∉ group.id.toList
  | _ => True

/-- The store after a call that succeeds. -/
def step (store : GroupStore) : RepositoryCall → Except GroupError GroupStore
  | save group => (store.save group).map Prod.snd
  | update amendment => (store.update amendment).map Prod.snd
  | changeStatus id status moment editor =>
    (store.changeStatus id status moment editor).map Prod.snd
  | delete id => store.delete id
  | assign groupId kind ids => store.assign groupId kind ids
  | unassign groupId kind ids => store.unassign groupId kind ids

theorem stepOn_eq_change {change : GroupStore → Except GroupError (Group × GroupStore)} :
    (do let _ ← GroupRepository.stepOn change : Action GroupStore GroupError Unit) =
      Action.change fun store => (change store).map Prod.snd := by
  apply Action.ext_perform
  intro store
  rcases outcome : change store with cause | ⟨group, after⟩ <;>
    simp [GroupRepository.stepOn, Action.perform_bind, Action.perform_change, outcome, Except.map]

/-- A call on a repository in memory changes the store if it succeeds, and leaves it alone
otherwise. -/
theorem run_inMemory (call : RepositoryCall) :
    call.run GroupRepository.inMemory = Action.change fun store => call.step store := by
  cases call with
  | save | update | changeStatus => exact stepOn_eq_change
  | delete | assign | unassign => rfl

end RepositoryCall

/-- Where a group stands: its id, its parent, its path and its level. -/
def Group.place (group : Group) : String × Option String × String × Nat :=
  (group.id, group.parent, group.path, group.level)

theorem Group.place_eq_iff {group other : Group} :
    group.place = other.place ↔ group.id = other.id ∧ group.parent = other.parent ∧
      group.path = other.path ∧ group.level = other.level := by
  simp [place]

namespace GroupStore

variable {store after : GroupStore} {group : Group} {id kind : String} {ids : List String}

/-- The store that a call leaves, whether it succeeds or not. -/
def afterCall (store : GroupStore) (call : RepositoryCall) : GroupStore :=
  ((call.run GroupRepository.inMemory).perform store).2

/-- The store that calls leave, one after another. -/
def afterCalls (store : GroupStore) (calls : List RepositoryCall) : GroupStore :=
  calls.foldl afterCall store

theorem afterCall_eq (store : GroupStore) (call : RepositoryCall) :
    store.afterCall call =
      match call.step store with
      | .ok after => after
      | .error _ => store := by
  rw [afterCall, call.run_inMemory, Action.perform_change]
  rcases call.step store with cause | after <;> rfl

/-! ### What calls leave -/

theorem modify_eq_ok_iff {edit : Group → Group} {edited : Group} :
    store.modify id edit = .ok (edited, after) ↔
      ∃ group, store.groups.find? id = some group ∧ edited = edit group ∧
        after = { store with groups := store.groups.insert id edited } := by
  refine retrieve_bind_eq_ok_iff.trans (exists_congr fun group => and_congr_right fun _ => ?_)
  simp only [pure, Except.pure, Except.ok.injEq, Prod.mk.injEq]
  constructor
  · rintro ⟨rfl, rfl⟩
    exact ⟨rfl, rfl⟩
  · rintro ⟨rfl, rfl⟩
    exact ⟨rfl, rfl⟩

/-- After a deletion, a row is left exactly if its group is. -/
theorem members_delete (deleted : store.delete id = .ok after) (groupId kind : String)
    (ids : List String) :
    after.members.find? (groupId, kind) = some ids ↔
      store.members.find? (groupId, kind) = some ids ∧
        ∃ group, after.groups.find? groupId = some group := by
  rcases delete_eq_ok_iff.mp deleted with ⟨_, _, _, members⟩
  rw [members, Table.find?_filter, Table.contains, Option.isSome_iff_exists]

theorem members_assign (assigned : store.assign id kind ids = .ok after) (row : String × String) :
    after.members.find? row = if row = (id, kind)
      then some (ids.foldl (fun members id => insertId id members) (store.memberIds id kind))
      else store.members.find? row := by
  rcases assign_eq_ok_iff.mp assigned with ⟨_, rfl⟩
  exact Table.find?_insert

theorem members_unassign (unassigned : store.unassign id kind ids = .ok after)
    (row : String × String) :
    after.members.find? row = if row = (id, kind)
      then (store.members.find? row).map (·.filter fun id => id ∉ ids)
      else store.members.find? row := by
  rcases unassign_eq_ok_iff.mp unassigned with ⟨_, changed⟩
  rcases held : store.members.find? (id, kind) with _ | members
  · obtain rfl : after = store := by rw [changed, held]
    split
    · next own => rw [own, held, Option.map_none]
    · rfl
  · simp only [held] at changed
    rw [changed]
    refine Table.find?_insert.trans ?_
    split
    · next own => rw [own, held, Option.map_some]
    · rfl

/-! ### Places -/

/-- Whether the groups of two stores stand in the same places under the same ids. -/
def SamePlaces (store after : GroupStore) : Prop :=
  ∀ id, (after.groups.find? id).map Group.place = (store.groups.find? id).map Group.place

theorem SamePlaces.symm (same : SamePlaces store after) : SamePlaces after store :=
  fun id => (same id).symm

theorem SamePlaces.exists_before (same : SamePlaces store after)
    (found : after.groups.find? id = some group) :
    ∃ before, store.groups.find? id = some before ∧ before.place = group.place := by
  have places := same id
  rw [found, Option.map_some] at places
  exact Option.map_eq_some_iff.mp places.symm

/-- An edit that keeps a group's place keeps the place of every group. -/
theorem samePlaces_modify {edit : Group → Group} {edited : Group}
    (modified : store.modify id edit = .ok (edited, after))
    (stays : ∀ group, (edit group).place = group.place) : SamePlaces store after := by
  rcases modify_eq_ok_iff.mp modified with ⟨group, found, rfl, rfl⟩
  intro other
  rw [Table.find?_insert]
  split
  · next own => rw [own, found, Option.map_some, Option.map_some, stays]
  · rfl

/-- A hierarchy depends on the places of its groups alone. -/
theorem Hierarchy.ofPlaces (hierarchy : store.Hierarchy) (same : SamePlaces store after) :
    after.Hierarchy where
  keyed id group found := by
    rcases same.exists_before found with ⟨before, stored, place⟩
    rw [← hierarchy.keyed id before stored, ← (Group.place_eq_iff.mp place).1]
  inPlace id group found := by
    rcases same.exists_before found with ⟨before, stored, place⟩
    rcases Group.place_eq_iff.mp place with ⟨ids, parents, paths, levels⟩
    rw [InPlace, Group.eq_asRoot_iff, ← ids, ← parents, ← paths, ← levels]
    rcases hierarchy.inPlace id before stored with root | ⟨parent, above, child⟩
    · exact .inl (Group.eq_asRoot_iff.mp root)
    · rcases same.symm.exists_before above with ⟨now, aboveNow, parentPlace⟩
      rcases Group.place_eq_iff.mp parentPlace with ⟨sameId, -, samePath, sameLevel⟩
      refine .inr ⟨now, sameId ▸ aboveNow, Group.eq_asChildOf_iff.mpr ?_⟩
      rw [← ids, ← parents, ← paths, ← levels, sameId, samePath, sameLevel]
      exact Group.eq_asChildOf_iff.mp child
  shallow id group found := by
    rcases same.exists_before found with ⟨before, stored, place⟩
    rw [← (Group.place_eq_iff.mp place).2.2.2]
    exact hierarchy.shallow id before stored

/-! ### The invariant -/

/-- Whether the stored groups form a hierarchy whose paths can be read back, and the rows of members
belong to stored groups. -/
structure Coherent (store : GroupStore) : Prop where
  hierarchy : store.Hierarchy
  plain : store.PlainIds
  housed : ∀ groupId kind ids, store.members.find? (groupId, kind) = some ids →
    ∃ group, store.groups.find? groupId = some group

theorem coherent_empty : GroupStore.empty.Coherent where
  hierarchy := hierarchy_empty
  plain id group found := by simp [GroupStore.empty] at found
  housed groupId kind ids found := by simp [GroupStore.empty] at found

namespace Coherent

/-- A save under an id without points keeps the store coherent. -/
theorem save {placed : Group} (coherent : store.Coherent) (plain : '.' ∉ group.id.toList)
    (saved : store.save group = .ok (placed, after)) : after.Coherent where
  hierarchy := coherent.hierarchy.save saved
  plain id other found := by
    rw [find?_save saved] at found
    split at found
    · next own => exact own ▸ plain
    · exact coherent.plain id other found
  housed groupId kind ids row := by
    rw [find?_save saved]
    split
    · exact ⟨placed, rfl⟩
    · rw [(of_save saved).2.2] at row
      exact coherent.housed groupId kind ids row

/-- An edit that leaves a group where it is disturbs nothing. -/
theorem modify {edit : Group → Group} {edited : Group} (coherent : store.Coherent)
    (modified : store.modify id edit = .ok (edited, after))
    (stays : ∀ group, (edit group).place = group.place) : after.Coherent := by
  have same := samePlaces_modify modified stays
  refine ⟨coherent.hierarchy.ofPlaces same, ?_, ?_⟩
  · intro other held stored
    rcases same.exists_before stored with ⟨before, foundBefore, _⟩
    exact coherent.plain other before foundBefore
  · intro groupId kind ids row
    rcases modify_eq_ok_iff.mp modified with ⟨_, _, _, rfl⟩
    rcases coherent.housed groupId kind ids row with ⟨housing, stored⟩
    rcases same.symm.exists_before stored with ⟨now, foundNow, _⟩
    exact ⟨now, foundNow⟩

/-- A deletion keeps the store coherent: it leaves no member row without a group. -/
theorem delete (coherent : store.Coherent) (deleted : store.delete id = .ok after) :
    after.Coherent where
  hierarchy := coherent.hierarchy.delete deleted
  plain other group found := by
    rcases of_delete deleted with ⟨_, _, remains⟩
    exact coherent.plain other group ((remains other group).mp found).1
  housed groupId kind ids row := ((members_delete deleted groupId kind ids).mp row).2

/-- No group lies below one that has just been saved. -/
theorem not_isBelow_saved {placed other : Group} (coherent : store.Coherent)
    (plain : '.' ∉ group.id.toList) (saved : store.save group = .ok (placed, after))
    (stored : store.groups.find? other.id = some other) : ¬other.isBelow placed := by
  have later := coherent.save plain saved
  rcases of_save saved with ⟨free, _, _⟩
  have found : after.groups.find? placed.id = some placed := by
    rw [find?_save saved, id_of_save saved, if_pos rfl]
  refine coherent.hierarchy.induction (motive := fun lower => ¬lower.isBelow placed) ?_ ?_ stored
  · intro root storedRoot isRoot
    exact Group.not_isBelow_asRoot isRoot (coherent.plain root.id root storedRoot)
  · intro child parent storedChild above isChild notBelow below
    rcases (Group.isBelow_asChildOf_iff isChild
      (coherent.plain child.id child storedChild)).mp below with same | parentBelow
    · -- A parent with the path of the saved group would be the saved group, whose id was free.
      have differs : parent.id ≠ group.id := by
        intro own
        rw [own, free] at above
        cases above
      have aboveNow : after.groups.find? parent.id = some parent := by
        rw [find?_save saved, if_neg differs, above]
      have own := later.hierarchy.eq_of_path_eq later.plain found aboveNow same
      exact differs (own ▸ id_of_save saved)
    · exact notBelow parentBelow

/-- Deleting a group right after it was saved brings back the store as it was. -/
theorem delete_saved {placed : Group} (coherent : store.Coherent)
    (plain : '.' ∉ group.id.toList) (saved : store.save group = .ok (placed, after)) :
    after.delete placed.id = .ok store := by
  rcases of_save saved with ⟨free, _, rfl⟩
  rw [← id_of_save saved] at free
  have kept : (store.groups.filter fun _ other => !other.isBelow placed) = store.groups := by
    apply Table.filter_eq_self
    intro id other stored
    rw [← coherent.hierarchy.keyed id other stored] at stored
    simpa using coherent.not_isBelow_saved plain saved stored
  have housed : (store.members.filter fun row _ => store.groups.contains row.1) =
      store.members := by
    apply Table.filter_eq_self
    rintro ⟨groupId, kind⟩ ids row
    exact Option.isSome_iff_exists.mpr (coherent.housed groupId kind ids row)
  refine delete_eq_ok_iff.mpr ⟨placed, Table.find?_insert_self, ?_, housed.symm⟩
  rw [Table.erase_insert free, kept]

/-- A change of the members of a stored group disturbs nothing. -/
theorem withMembers (coherent : store.Coherent) (same : after.groups = store.groups)
    (stored : store.groups.find? id = some group)
    (others : ∀ row, row ≠ (id, kind) → after.members.find? row = store.members.find? row) :
    after.Coherent where
  hierarchy := coherent.hierarchy.ofGroups same
  plain other group found := coherent.plain other group (same ▸ found)
  housed groupId otherKind ids row := by
    rw [same]
    by_cases own : (groupId, otherKind) = (id, kind)
    · rw [(Prod.mk.inj own).1]
      exact ⟨group, stored⟩
    · exact coherent.housed groupId otherKind ids (others _ own ▸ row)

/-- A call that succeeds keeps a store coherent. -/
theorem step {call : RepositoryCall} (coherent : store.Coherent) (plain : call.PlainId)
    (stepped : call.step store = .ok after) : after.Coherent := by
  cases call with
  | save group =>
    rcases exists_fst_of_map_snd_eq_ok stepped with ⟨placed, saved⟩
    exact coherent.save plain saved
  | update amendment =>
    rcases exists_fst_of_map_snd_eq_ok stepped with ⟨edited, updated⟩
    exact coherent.modify updated fun _ => rfl
  | changeStatus id status moment editor =>
    rcases exists_fst_of_map_snd_eq_ok stepped with ⟨edited, changed⟩
    exact coherent.modify changed fun _ => rfl
  | delete id => exact coherent.delete stepped
  | assign groupId kind ids =>
    rcases of_assign stepped with ⟨⟨group, stored⟩, same⟩
    have others : ∀ row, row ≠ (groupId, kind) →
        after.members.find? row = store.members.find? row := by
      intro row other
      rw [members_assign stepped, if_neg other]
    exact coherent.withMembers same stored others
  | unassign groupId kind ids =>
    rcases of_unassign stepped with ⟨⟨group, stored⟩, same⟩
    have others : ∀ row, row ≠ (groupId, kind) →
        after.members.find? row = store.members.find? row := by
      intro row other
      rw [members_unassign stepped, if_neg other]
    exact coherent.withMembers same stored others

theorem afterCall {call : RepositoryCall} (coherent : store.Coherent) (plain : call.PlainId) :
    (store.afterCall call).Coherent := by
  rw [afterCall_eq]
  rcases outcome : call.step store with cause | after
  · exact coherent
  · exact coherent.step plain outcome

/-- Every list of calls that saves only ids without points keeps the store coherent. -/
theorem afterCalls {calls : List RepositoryCall} (coherent : store.Coherent)
    (plain : ∀ call ∈ calls, call.PlainId) : (store.afterCalls calls).Coherent := by
  induction calls generalizing store with
  | nil => exact coherent
  | cons call rest ih =>
    rw [List.forall_mem_cons] at plain
    exact ih (coherent.afterCall plain.1) plain.2

end Coherent

/-- Calls on an empty repository build trees.  Every stored group is kept under its id, at a level
from one to five, and is a root or stands below a stored parent that its path and level extend; and
members belong to stored groups.  So the ancestors that are listed are those that the parent pointers
lead to, and the descendants are the groups whose parent pointers lead to the group, ordered by level
and path. -/
theorem calls_build_trees {calls : List RepositoryCall} {store : GroupStore}
    (plain : ∀ call ∈ calls, call.PlainId) (run : GroupStore.empty.afterCalls calls = store) :
    (∀ id group, store.groups.find? id = some group →
        group.id = id ∧ 1 ≤ group.level ∧ group.level ≤ 5 ∧
          (group.parent = none ∧ group.path = id ∧ group.level = 1 ∨
            ∃ parentId parent, group.parent = some parentId ∧
              store.groups.find? parentId = some parent ∧
              group.path = parent.path ++ "." ++ id ∧ group.level = parent.level + 1)) ∧
      (∀ groupId kind members, store.members.find? (groupId, kind) = some members →
        ∃ group, store.groups.find? groupId = some group) ∧
      ∀ id target level, store.groups.find? id = some target → 1 ≤ level → level ≤ 5 →
        (GroupRepository.inMemory.parents id level).perform store =
            (.ok (store.climb level target), store) ∧
          ∃ below, (GroupRepository.inMemory.children id level).perform store =
              (.ok below, store) ∧
            (∀ group, group ∈ below ↔
              store.groups.find? group.id = some group ∧ target ∈ store.climb level group) ∧
            below.Pairwise fun left right => left.rank < right.rank := by
  have coherent : store.Coherent := run ▸ coherent_empty.afterCalls plain
  have hierarchy := coherent.hierarchy
  refine ⟨?_, coherent.housed, ?_⟩
  · intro id group found
    have own := hierarchy.keyed id group found
    have stored : store.groups.find? group.id = some group := own.symm ▸ found
    refine ⟨own, hierarchy.one_le_level stored, hierarchy.shallow id group found, ?_⟩
    rcases hierarchy.inPlace id group found with root | ⟨parent, above, child⟩
    · exact .inl (own ▸ Group.eq_asRoot_iff.mp root)
    · rcases Group.eq_asChildOf_iff.mp child with ⟨pointer, path, level⟩
      exact .inr ⟨parent.id, parent, pointer, above, own ▸ path, level⟩
  · intro id target level found positive bounded
    have parents := hierarchy.parents_eq_climb coherent.plain ⟨positive, bounded⟩ found
    rcases hierarchy.exists_children coherent.plain ⟨positive, bounded⟩ found with
      ⟨below, children, members, ordered⟩
    refine ⟨?_, below, ?_, members, ordered⟩
    · exact Action.perform_query.trans (by rw [parents, mapError_ok])
    · exact Action.perform_query.trans (by rw [children, mapError_ok])

/-- A group to be saved below another, or as a root. -/
def sprout (id : String) (parent : Option String) : Group :=
  { id, name := id, owner := "alice", parent, createdAt := default }

/-- Three groups below each other, and a fourth whose parent is not there. -/
def sproutingCalls : List RepositoryCall :=
  [.save (sprout "a" none), .save (sprout "b" (some "a")), .save (sprout "c" (some "b")),
    .save (sprout "d" (some "e")), .assign "c" "things" ["t"],
    .changeStatus "b" .disabled default "alice"]

/-- After three saves, a fourth that fails and a change of status, the parents are found by their
pointers, nearest first. -/
theorem calls_build_trees_sprouts :
    ∃ near far, (GroupRepository.inMemory.parents "c" 2).perform
        (GroupStore.empty.afterCalls sproutingCalls) =
          (.ok [near, far], GroupStore.empty.afterCalls sproutingCalls) ∧
      near.path = "a.b" ∧ near.status = .disabled ∧ far.path = "a" := by
  have plain : ∀ call ∈ sproutingCalls, call.PlainId := by
    simp [sproutingCalls, RepositoryCall.PlainId, sprout]
  have listed := ((calls_build_trees plain rfl).2.2 "c" _ 2 rfl (by decide) (by decide)).1
  exact ⟨_, _, listed, rfl, rfl, rfl⟩

end GroupStore

end RelationAuth.Groups
