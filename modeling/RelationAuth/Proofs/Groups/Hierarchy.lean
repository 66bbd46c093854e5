import Mathlib.Logic.Relation
import RelationAuth.Groups.GroupStore
import RelationAuth.Proofs.Table

/-!
# The hierarchy of groups

Every stored group is a root, or it stands below a stored parent whose path and level its own extend.
Saving puts a group below a parent that is there, and deleting takes away everything whose path lies
below that of a group, so that no group loses its parent.
-/

namespace RelationAuth.Groups

/-- A group lies below another if its path goes on after the other's path and a point. -/
theorem Group.isBelow_iff {group ancestor : Group} :
    group.isBelow ancestor ↔ ∃ rest, group.path.toList = (ancestor.path ++ ".").toList ++ rest := by
  simp only [isBelow, List.isPrefixOf_iff_prefix, List.IsPrefix]
  exact exists_congr fun _ => eq_comm

theorem Group.isBelow_asChildOf {group parent : Group} (child : group = group.asChildOf parent) :
    group.isBelow parent := by
  refine Group.isBelow_iff.mpr ⟨group.id.toList, ?_⟩
  rw [child]
  simp [Group.asChildOf]

theorem Group.isBelow_of_parent {group parent ancestor : Group}
    (child : group = group.asChildOf parent) (below : parent.isBelow ancestor) :
    group.isBelow ancestor := by
  rcases Group.isBelow_iff.mp below with ⟨rest, path⟩
  refine Group.isBelow_iff.mpr ⟨rest ++ ".".toList ++ group.id.toList, ?_⟩
  rw [child]
  simp [Group.asChildOf, path]

theorem checkLevel_eq_ok_iff {level : Nat} :
    checkLevel level = .ok () ↔ 1 ≤ level ∧ level ≤ maxLevel := by
  rw [checkLevel]
  split <;> simp <;> omega

namespace GroupStore

variable {store after : GroupStore} {group placed : Group} {id : String}

/-- The parent pointers of the stored groups. -/
def PointsTo (store : GroupStore) (child parent : String) : Prop :=
  ∃ group, store.groups.find? child = some group ∧ group.parent = some parent

/-- Whether a group stands in its place among the stored ones: as a root, or below a stored
parent. -/
def InPlace (store : GroupStore) (group : Group) : Prop :=
  group = group.asRoot ∨
    ∃ parent, store.groups.find? parent.id = some parent ∧ group = group.asChildOf parent

/-- Whether the stored groups form a hierarchy. -/
structure Hierarchy (store : GroupStore) : Prop where
  keyed : ∀ id group, store.groups.find? id = some group → group.id = id
  inPlace : ∀ id group, store.groups.find? id = some group → store.InPlace group
  shallow : ∀ id group, store.groups.find? id = some group → group.level ≤ maxLevel

theorem hierarchy_empty : GroupStore.empty.Hierarchy where
  keyed id group found := by simp [GroupStore.empty] at found
  inPlace id group found := by simp [GroupStore.empty] at found
  shallow id group found := by simp [GroupStore.empty] at found

/-- A group is saved under a free id, as a root or below a stored parent that is not too deep. -/
theorem of_save (saved : store.save group = .ok (placed, after)) :
    store.groups.find? group.id = none ∧
      (group.parent.filter (· ≠ "") = none ∧ placed = group.asRoot ∨
        ∃ parentId parent, group.parent.filter (· ≠ "") = some parentId ∧
          store.groups.find? parentId = some parent ∧ parent.level < maxLevel ∧
          placed = group.asChildOf parent) ∧
      after = { store with groups := store.groups.insert placed.id placed } := by
  rcases free : store.groups.find? group.id with _ | taken
  · simp only [save, Table.contains, free, Option.isSome_none, Bool.false_eq_true, if_false, bind,
      Except.bind, pure, Except.pure] at saved
    refine ⟨rfl, ?_⟩
    rcases named : group.parent.filter (· ≠ "") with _ | parentId
    · simp only [parentOf, named, Group.placeUnder, Except.ok.injEq, Prod.mk.injEq] at saved
      rcases saved with ⟨rfl, rfl⟩
      exact ⟨Or.inl ⟨rfl, rfl⟩, rfl⟩
    · rcases found : store.groups.find? parentId with _ | parent
      · simp only [parentOf, named, found, reduceCtorEq] at saved
      by_cases deep : parent.level ≥ maxLevel
      · simp only [parentOf, named, found, Group.placeUnder, deep, if_true, reduceCtorEq] at saved
      · simp only [parentOf, named, found, Group.placeUnder, deep, if_false, Except.ok.injEq,
          Prod.mk.injEq] at saved
        rcases saved with ⟨rfl, rfl⟩
        exact ⟨Or.inr ⟨parentId, parent, rfl, found, Nat.lt_of_not_ge deep, rfl⟩, rfl⟩
  · simp [save, Table.contains, free, bind, Except.bind, throw, throwThe, MonadExceptOf.throw]
      at saved

theorem id_of_save (saved : store.save group = .ok (placed, after)) : placed.id = group.id := by
  rcases (of_save saved).2.1 with ⟨_, rfl⟩ | ⟨_, _, _, _, _, rfl⟩ <;> rfl

theorem find?_save (saved : store.save group = .ok (placed, after)) (other : String) :
    after.groups.find? other =
      if other = group.id then some placed else store.groups.find? other := by
  rw [(of_save saved).2.2, ← id_of_save saved]
  exact Table.find?_insert

/-- An operation that retrieves a group first succeeds exactly if the group is there and the rest
succeeds. -/
theorem retrieve_bind_eq_ok_iff {α : Type} {next : Group → Except GroupError α} {answer : α} :
    store.retrieve id >>= next = .ok answer ↔
      ∃ group, store.groups.find? id = some group ∧ next group = .ok answer := by
  rcases found : store.groups.find? id with _ | group <;>
    simp [retrieve, found, bind, Except.bind]

/-- A deletion takes the group, what lies below it by path, and the member rows that are left
without a group. -/
theorem delete_eq_ok_iff :
    store.delete id = .ok after ↔ ∃ target, store.groups.find? id = some target ∧
      after.groups = (store.groups.erase id).filter (fun _ other => !other.isBelow target) ∧
      after.members = store.members.filter fun key _ => after.groups.contains key.1 := by
  refine retrieve_bind_eq_ok_iff.trans (exists_congr fun target => and_congr_right fun _ => ?_)
  rcases after with ⟨groups, members⟩
  simp only [pure, Except.pure, Except.ok.injEq, GroupStore.mk.injEq]
  constructor
  · rintro ⟨rfl, rfl⟩
    exact ⟨rfl, rfl⟩
  · rintro ⟨rfl, rfl⟩
    exact ⟨rfl, rfl⟩

theorem of_delete (deleted : store.delete id = .ok after) :
    ∃ target, store.groups.find? id = some target ∧
      ∀ other group, after.groups.find? other = some group ↔
        store.groups.find? other = some group ∧ other ≠ id ∧ ¬group.isBelow target := by
  rcases delete_eq_ok_iff.mp deleted with ⟨target, found, groups, _⟩
  refine ⟨target, found, fun other group => ?_⟩
  rw [groups, Table.find?_filter, Table.find?_erase]
  by_cases same : other = id <;> simp [same]

/-- A listing around a group answers exactly for stored groups and as many levels as a hierarchy
can have. -/
theorem levelListing_eq_ok_iff {level : Nat} {list : Group → List Group} {listed : List Group} :
    (do
      checkLevel level
      let group ← store.retrieve id
      return list group) = .ok listed ↔
      (1 ≤ level ∧ level ≤ maxLevel) ∧
        ∃ group, store.groups.find? id = some group ∧ list group = listed := by
  rw [← checkLevel_eq_ok_iff]
  rcases checkLevel level with cause | _
  · simp [bind, Except.bind]
  · refine retrieve_bind_eq_ok_iff.trans ?_
    simp [pure, Except.pure]

/-- The parents are the ancestors that the path names, nearest first, as many as asked for. -/
theorem parents_eq_ok_iff {level : Nat} {above : List Group} :
    store.parents id level = .ok above ↔ (1 ≤ level ∧ level ≤ maxLevel) ∧
      ∃ group, store.groups.find? id = some group ∧
        (group.ancestorIds.take level).filterMap store.groups.find? = above :=
  levelListing_eq_ok_iff

/-- The children are the groups below by path, within the levels asked for, in order. -/
theorem children_eq_ok_iff {level : Nat} {below : List Group} :
    store.children id level = .ok below ↔ (1 ≤ level ∧ level ≤ maxLevel) ∧
      ∃ target, store.groups.find? id = some target ∧
        (store.groups.values.filter fun other =>
          other.isBelow target && other.level ≤ target.level + level).mergeSort higher = below :=
  levelListing_eq_ok_iff

theorem of_children {level : Nat} {below : List Group}
    (listed : store.children id level = .ok below) :
    ∃ target, store.groups.find? id = some target ∧
      ∀ group, group ∈ below ↔
        (∃ other, store.groups.find? other = some group) ∧ group.isBelow target ∧
          group.level ≤ target.level + level := by
  rcases children_eq_ok_iff.mp listed with ⟨_, target, found, rfl⟩
  refine ⟨target, found, fun group => ?_⟩
  simp [List.mem_mergeSort, Table.mem_values_iff]

/-- An assignment adds the members to the row of their kind and changes nothing else. -/
theorem assign_eq_ok_iff {kind : String} {ids : List String} :
    store.assign id kind ids = .ok after ↔ (∃ group, store.groups.find? id = some group) ∧
      after = { store with
        members := store.members.insert (id, kind)
          (ids.foldl (fun members id => insertId id members) (store.memberIds id kind)) } := by
  refine retrieve_bind_eq_ok_iff.trans ?_
  simp only [pure, Except.pure, Except.ok.injEq, exists_and_right, eq_comm]

theorem of_assign {kind : String} {ids : List String}
    (assigned : store.assign id kind ids = .ok after) :
    (∃ group, store.groups.find? id = some group) ∧ after.groups = store.groups := by
  rcases assign_eq_ok_iff.mp assigned with ⟨stored, rfl⟩
  exact ⟨stored, rfl⟩

/-- A removal of members takes them from the row of their kind and changes nothing else. -/
theorem unassign_eq_ok_iff {kind : String} {ids : List String} :
    store.unassign id kind ids = .ok after ↔ (∃ group, store.groups.find? id = some group) ∧
      after = match store.members.find? (id, kind) with
        | none => store
        | some members => { store with
          members := store.members.insert (id, kind) (members.filter fun id => id ∉ ids) } := by
  refine retrieve_bind_eq_ok_iff.trans ?_
  rcases store.members.find? (id, kind) with _ | members <;>
    simp only [pure, Except.pure, Except.ok.injEq, exists_and_right, eq_comm]

theorem of_unassign {kind : String} {ids : List String}
    (unassigned : store.unassign id kind ids = .ok after) :
    (∃ group, store.groups.find? id = some group) ∧ after.groups = store.groups := by
  rcases unassign_eq_ok_iff.mp unassigned with ⟨stored, rfl⟩
  refine ⟨stored, ?_⟩
  split <;> rfl

namespace Hierarchy

/-- A saved group keeps the parent that it names, an empty name counting as none. -/
theorem parent_of_save (hierarchy : store.Hierarchy)
    (saved : store.save group = .ok (placed, after)) :
    placed.parent = group.parent.filter (· ≠ "") := by
  rcases (of_save saved).2.1 with ⟨none, rfl⟩ | ⟨parentId, parent, named, found, _, rfl⟩
  · exact none.symm
  · rw [named, ← hierarchy.keyed parentId parent found]
    rfl

/-- Saving keeps the hierarchy: the new group stands where its parent puts it, and no group
moves. -/
theorem save (hierarchy : store.Hierarchy) (saved : store.save group = .ok (placed, after)) :
    after.Hierarchy := by
  rcases of_save saved with ⟨free, placing, _⟩
  have kept : ∀ other found, store.groups.find? other = some found →
      after.groups.find? other = some found := by
    intro other found held
    have differs : other ≠ group.id := by
      rintro rfl
      simp [free] at held
    rw [find?_save saved, if_neg differs, held]
  have either : ∀ other found, after.groups.find? other = some found →
      other = group.id ∧ found = placed ∨ store.groups.find? other = some found := by
    intro other found held
    rw [find?_save saved] at held
    by_cases same : other = group.id
    · rw [if_pos same, Option.some.injEq] at held
      exact Or.inl ⟨same, held.symm⟩
    · rw [if_neg same] at held
      exact Or.inr held
  refine ⟨?_, ?_, ?_⟩
  · intro other found held
    rcases either other found held with ⟨rfl, rfl⟩ | old
    · exact id_of_save saved
    · exact hierarchy.keyed other found old
  · intro other found held
    rcases either other found held with ⟨rfl, rfl⟩ | old
    · rcases placing with ⟨_, rfl⟩ | ⟨parentId, parent, _, stored, _, rfl⟩
      · exact Or.inl rfl
      · have own := hierarchy.keyed parentId parent stored
        exact Or.inr ⟨parent, kept _ _ (own ▸ stored), rfl⟩
    · rcases hierarchy.inPlace other found old with root | ⟨parent, stored, child⟩
      · exact Or.inl root
      · exact Or.inr ⟨parent, kept _ _ stored, child⟩
  · intro other found held
    rcases either other found held with ⟨rfl, rfl⟩ | old
    · rcases placing with ⟨_, rfl⟩ | ⟨_, parent, _, _, higher, rfl⟩
      · exact Nat.le_add_left 1 4
      · exact higher
    · exact hierarchy.shallow other found old

/-- What remains when a group is deleted is a hierarchy: whoever loses its parent is below the
deleted group too. -/
theorem delete (hierarchy : store.Hierarchy) (deleted : store.delete id = .ok after) :
    after.Hierarchy := by
  rcases of_delete deleted with ⟨target, found, remains⟩
  refine ⟨?_, ?_, ?_⟩
  · intro other group held
    exact hierarchy.keyed other group ((remains other group).mp held).1
  · intro other group held
    rcases (remains other group).mp held with ⟨stored, _, notBelow⟩
    rcases hierarchy.inPlace other group stored with root | ⟨parent, above, child⟩
    · exact Or.inl root
    · refine Or.inr ⟨parent, (remains parent.id parent).mpr ⟨above, ?_, ?_⟩, child⟩
      · intro same
        rw [same, found, Option.some.injEq] at above
        subst above
        exact notBelow (Group.isBelow_asChildOf child)
      · intro below
        exact notBelow (Group.isBelow_of_parent child below)
  · intro other group held
    exact hierarchy.shallow other group ((remains other group).mp held).1

/-- What is listed below a group does not remain when the group is deleted. -/
theorem not_mem_removed (hierarchy : store.Hierarchy) {below : List Group}
    (listed : store.children id maxLevel = .ok below) (deleted : store.delete id = .ok after)
    {other : String} (held : after.groups.find? other = some group) :
    other ∉ id :: below.map (·.id) := by
  rcases of_delete deleted with ⟨target, found, remains⟩
  rcases of_children listed with ⟨same, foundToo, members⟩
  obtain rfl : same = target := Option.some.inj (foundToo.symm.trans found)
  rcases (remains other group).mp held with ⟨stored, differs, notBelow⟩
  rw [List.mem_cons, not_or]
  refine ⟨differs, ?_⟩
  intro mem
  rcases List.mem_map.mp mem with ⟨lower, among, rfl⟩
  rcases (members lower).mp among with ⟨⟨key, storedLower⟩, isBelow, _⟩
  rw [hierarchy.keyed key lower storedLower, storedLower, Option.some.injEq] at stored
  exact notBelow (stored ▸ isBelow)

/-- A group is removed exactly if it is the deleted one or listed below it. -/
theorem mem_removed_iff (hierarchy : store.Hierarchy) {below : List Group}
    (listed : store.children id maxLevel = .ok below) (deleted : store.delete id = .ok after)
    {other : String} :
    other ∈ id :: below.map (·.id) ↔
      (∃ group, store.groups.find? other = some group) ∧ after.groups.find? other = none := by
  rcases of_delete deleted with ⟨target, found, remains⟩
  rcases of_children listed with ⟨same, foundToo, members⟩
  obtain rfl : same = target := Option.some.inj (foundToo.symm.trans found)
  constructor
  · intro mem
    constructor
    · rcases List.mem_cons.mp mem with rfl | lower
      · exact ⟨same, found⟩
      · rcases List.mem_map.mp lower with ⟨group, among, rfl⟩
        rcases (members group).mp among with ⟨⟨key, stored⟩, _⟩
        rw [hierarchy.keyed key group stored]
        exact ⟨group, stored⟩
    · rcases held : after.groups.find? other with _ | group
      · rfl
      · exact absurd mem (hierarchy.not_mem_removed listed deleted held)
  · rintro ⟨⟨group, stored⟩, lost⟩
    by_cases own : other = id
    · exact own ▸ List.mem_cons_self
    · have below : group.isBelow same := by
        by_contra notBelow
        have held := (remains other group).mpr ⟨stored, own, notBelow⟩
        rw [lost] at held
        cases held
      have shallow := hierarchy.shallow other group stored
      rw [← hierarchy.keyed other group stored]
      exact List.mem_cons_of_mem _ (List.mem_map_of_mem
        ((members group).mpr ⟨⟨other, stored⟩, below, by omega⟩))

/-- The hierarchy is a matter of the groups alone, whatever becomes of the members. -/
theorem ofGroups (hierarchy : store.Hierarchy) (same : after.groups = store.groups) :
    after.Hierarchy where
  keyed := by simpa only [same] using hierarchy.keyed
  inPlace := by simpa only [InPlace, same] using hierarchy.inPlace
  shallow := by simpa only [same] using hierarchy.shallow

/-- A parent pointer leads to a stored group one level up. -/
theorem of_pointsTo (hierarchy : store.Hierarchy) {child parentId : String}
    (points : store.PointsTo child parentId) :
    ∃ group parent, store.groups.find? child = some group ∧
      store.groups.find? parentId = some parent ∧ group = group.asChildOf parent := by
  rcases points with ⟨group, found, pointer⟩
  rcases hierarchy.inPlace child group found with root | ⟨parent, above, below⟩
  · rw [root] at pointer
    cases pointer
  · have named : parent.id = parentId := by
      rw [below] at pointer
      exact Option.some.inj pointer
    exact ⟨group, parent, found, named ▸ above, below⟩

/-- The groups whose parent pointers lead to a group lie below it. -/
theorem isBelow_of_descendant (hierarchy : store.Hierarchy) {target : Group}
    (found : store.groups.find? id = some target) {lower : String}
    (descends : Relation.TransGen store.PointsTo lower id) :
    ∃ group, store.groups.find? lower = some group ∧ group.isBelow target := by
  induction descends using Relation.TransGen.head_induction_on with
  | single points =>
    rcases hierarchy.of_pointsTo points with ⟨group, parent, stored, above, child⟩
    obtain rfl : parent = target := Option.some.inj (above.symm.trans found)
    exact ⟨group, stored, Group.isBelow_asChildOf child⟩
  | head points _ ih =>
    rcases hierarchy.of_pointsTo points with ⟨group, parent, stored, above, child⟩
    rcases ih with ⟨same, alsoAbove, below⟩
    obtain rfl : parent = same := Option.some.inj (above.symm.trans alsoAbove)
    exact ⟨group, stored, Group.isBelow_of_parent child below⟩

/-- Deleting a group loses it and every group whose parent pointers lead to it. -/
theorem lost_of_descendant (hierarchy : store.Hierarchy) (deleted : store.delete id = .ok after)
    {lower : String} (descends : Relation.ReflTransGen store.PointsTo lower id) :
    (∃ group, store.groups.find? lower = some group) ∧ after.groups.find? lower = none := by
  rcases of_delete deleted with ⟨target, found, remains⟩
  have stays : ∀ group, store.groups.find? lower = some group →
      (lower = id ∨ group.isBelow target) → after.groups.find? lower = none := by
    intro group stored lost
    rcases held : after.groups.find? lower with _ | other
    · rfl
    · rcases (remains lower other).mp held with ⟨alsoStored, differs, notBelow⟩
      obtain rfl : group = other := Option.some.inj (stored.symm.trans alsoStored)
      rcases lost with own | below
      · exact absurd own differs
      · exact absurd below notBelow
  rcases Relation.reflTransGen_iff_eq_or_transGen.mp descends with rfl | properly
  · exact ⟨⟨target, found⟩, stays target found (Or.inl rfl)⟩
  · rcases hierarchy.isBelow_of_descendant found properly with ⟨group, stored, below⟩
    exact ⟨⟨group, stored⟩, stays group stored (Or.inr below)⟩

end Hierarchy

end GroupStore

end RelationAuth.Groups
