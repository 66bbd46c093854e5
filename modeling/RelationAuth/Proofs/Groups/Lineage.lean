import Mathlib.Data.Prod.Lex
import Mathlib.Data.String.Basic
import RelationAuth.Proofs.Groups.Hierarchy
import RelationAuth.Proofs.Ranking

/-!
# Lineages

Ancestors and descendants are listed by the paths of groups.  In a hierarchy whose ids hold no point,
a path tells exactly the groups that the parent pointers lead to: its segments but the last are the
ids of the ancestors, and it extends the path of another group by a point exactly if that is one of
the ancestors.
-/

namespace RelationAuth.Groups

/-! ### Paths and their segments -/

theorem pathSegments_ne_nil {path : List Char} : pathSegments path ≠ [] := by
  induction path with
  | nil => simp [pathSegments]
  | cons symbol rest ih =>
    rw [pathSegments]
    split
    · simp
    · split <;> simp

theorem pathSegments_of_plain {id : List Char} (plain : '.' ∉ id) : pathSegments id = [id] := by
  induction id with
  | nil => rfl
  | cons symbol rest ih =>
    rw [List.mem_cons, not_or] at plain
    rw [pathSegments, if_neg (Ne.symm plain.1), ih plain.2]

/-- A point ends a segment of a path. -/
theorem pathSegments_append_point {front back : List Char} :
    pathSegments (front ++ '.' :: back) = pathSegments front ++ pathSegments back := by
  induction front with
  | nil => simp [pathSegments]
  | cons symbol rest ih =>
    rw [List.cons_append, pathSegments, pathSegments, ih]
    split
    · rfl
    · rcases segments : pathSegments rest with _ | ⟨first, others⟩
      · exact absurd segments pathSegments_ne_nil
      · rfl

/-- A list that ends in a point and a back without points starts with another list and a point only
if its front is the other list, or starts with it and a point as well. -/
theorem append_point_prefix_iff {front back start : List Char} (plain : '.' ∉ back) :
    (∃ rest, front ++ '.' :: back = start ++ '.' :: rest) ↔
      start = front ∨ ∃ rest, front = start ++ '.' :: rest := by
  constructor
  · rintro ⟨rest, same⟩
    rcases List.append_eq_append_iff.mp same with ⟨more, longer, ends⟩ | ⟨more, shorter, ends⟩
    · rcases more with _ | ⟨symbol, more⟩
      · exact .inl (by simpa using longer)
      · -- The start reaches beyond the point, and the back would hold another one.
        rw [List.cons_append, List.cons.injEq] at ends
        exact absurd (ends.2 ▸ List.mem_append_right more List.mem_cons_self) plain
    · rcases more with _ | ⟨symbol, more⟩
      · exact .inl (by simpa using shorter.symm)
      · rw [List.cons_append, List.cons.injEq] at ends
        exact .inr ⟨more, ends.1 ▸ shorter⟩
  · rintro (rfl | ⟨rest, rfl⟩)
    · exact ⟨back, rfl⟩
    · exact ⟨rest ++ '.' :: back, by simp⟩

namespace Group

variable {group parent ancestor : Group}

theorem eq_asRoot_iff :
    group = group.asRoot ↔ group.parent = none ∧ group.path = group.id ∧ group.level = 1 := by
  rcases group
  simp [asRoot]

theorem eq_asChildOf_iff :
    group = group.asChildOf parent ↔ group.parent = some parent.id ∧
      group.path = parent.path ++ "." ++ group.id ∧ group.level = parent.level + 1 := by
  rcases group
  simp [asChildOf]

theorem path_toList_asChildOf (child : group = group.asChildOf parent) :
    group.path.toList = parent.path.toList ++ '.' :: group.id.toList := by
  simp [(eq_asChildOf_iff.mp child).2.1]

/-- The segments of the path of a group, of which the last is its id. -/
def segments (group : Group) : List (List Char) :=
  pathSegments group.path.toList

theorem segments_asRoot (root : group = group.asRoot) (plain : '.' ∉ group.id.toList) :
    group.segments = [group.id.toList] := by
  rw [segments, (eq_asRoot_iff.mp root).2.1, pathSegments_of_plain plain]

/-- A child's path has the segments of its parent's and its own id after them. -/
theorem segments_asChildOf (child : group = group.asChildOf parent)
    (plain : '.' ∉ group.id.toList) :
    group.segments = parent.segments ++ [group.id.toList] := by
  rw [segments, path_toList_asChildOf child, pathSegments_append_point,
    pathSegments_of_plain plain]
  rfl

theorem ancestorIds_eq : group.ancestorIds = group.segments.dropLast.reverse.map String.ofList :=
  rfl

theorem ancestorIds_asRoot (root : group = group.asRoot) (plain : '.' ∉ group.id.toList) :
    group.ancestorIds = [] := by
  rw [ancestorIds_eq, segments_asRoot root plain]
  rfl

theorem not_isBelow_asRoot (root : group = group.asRoot) (plain : '.' ∉ group.id.toList) :
    ¬group.isBelow ancestor := by
  intro below
  rcases isBelow_iff.mp below with ⟨rest, path⟩
  rw [(eq_asRoot_iff.mp root).2.1] at path
  exact plain (by simp [path])

/-- Below an ancestor lie its children and what lies below them. -/
theorem isBelow_asChildOf_iff (child : group = group.asChildOf parent)
    (plain : '.' ∉ group.id.toList) :
    group.isBelow ancestor ↔ ancestor.path = parent.path ∨ parent.isBelow ancestor := by
  have starts (other : Group) : other.isBelow ancestor ↔
      ∃ rest, other.path.toList = ancestor.path.toList ++ '.' :: rest := by
    simp [isBelow_iff]
  rw [starts, starts, path_toList_asChildOf child, append_point_prefix_iff plain,
    String.toList_inj]

end Group

/-- The level and the path of a group, by which descendants are listed. -/
def Group.rank (group : Group) : Nat ×ₗ String :=
  toLex (group.level, group.path)

namespace GroupStore

variable {store : GroupStore} {group target parent : Group} {steps : Nat}

/-- Whether the ids of the stored groups hold none of the points that paths are joined with. -/
def PlainIds (store : GroupStore) : Prop :=
  ∀ id group, store.groups.find? id = some group → '.' ∉ id.toList

/-- The groups that the parent pointers lead to from a group, nearest first, over a number of
steps. -/
def climb (store : GroupStore) : Nat → Group → List Group
  | 0, _ => []
  | steps + 1, group =>
    match group.parent.bind store.groups.find? with
    | none => []
    | some parent => parent :: store.climb steps parent

theorem climb_asRoot (root : group = group.asRoot) : store.climb steps group = [] := by
  cases steps with
  | zero => rfl
  | succ steps => rw [climb, (Group.eq_asRoot_iff.mp root).1, Option.bind_none]

theorem climb_asChildOf (child : group = group.asChildOf parent)
    (above : store.groups.find? parent.id = some parent) :
    store.climb (steps + 1) group = parent :: store.climb steps parent := by
  rw [climb, (Group.eq_asChildOf_iff.mp child).1, Option.bind_some, above]

namespace Hierarchy

variable (hierarchy : store.Hierarchy)

include hierarchy

/-- What holds of the roots, and of a group if it holds of its parent, holds of every stored
group. -/
theorem induction {motive : Group → Prop} (root : ∀ group,
      store.groups.find? group.id = some group → group = group.asRoot → motive group)
    (child : ∀ group parent, store.groups.find? group.id = some group →
      store.groups.find? parent.id = some parent → group = group.asChildOf parent →
        motive parent → motive group)
    (stored : store.groups.find? group.id = some group) : motive group := by
  induction level : group.level using Nat.strong_induction_on generalizing group with
  | _ _ ih =>
    rcases hierarchy.inPlace group.id group stored with isRoot | ⟨parent, above, isChild⟩
    · exact root group stored isRoot
    · have lower := (Group.eq_asChildOf_iff.mp isChild).2.2
      exact child group parent stored above isChild (ih parent.level (by omega) above rfl)

theorem one_le_level (stored : store.groups.find? group.id = some group) : 1 ≤ group.level := by
  rcases hierarchy.inPlace group.id group stored with root | ⟨parent, _, child⟩
  · exact (Group.eq_asRoot_iff.mp root).2.2.ge
  · exact (Group.eq_asChildOf_iff.mp child).2.2 ▸ Nat.le_add_left 1 parent.level

variable (plain : store.PlainIds)

include plain

/-- The last segment of a path is the id of the group. -/
theorem segments_eq (stored : store.groups.find? group.id = some group) :
    group.segments = group.segments.dropLast ++ [group.id.toList] := by
  have own := plain group.id group stored
  rcases hierarchy.inPlace group.id group stored with root | ⟨parent, _, child⟩
  · rw [Group.segments_asRoot root own]
    rfl
  · rw [Group.segments_asChildOf child own, List.dropLast_concat]

/-- Stored groups with the same path are the same. -/
theorem eq_of_path_eq {other : Group} (stored : store.groups.find? group.id = some group)
    (storedToo : store.groups.find? other.id = some other) (same : group.path = other.path) :
    group = other := by
  have segments : group.segments.dropLast ++ [group.id.toList] =
      other.segments.dropLast ++ [other.id.toList] := by
    rw [← hierarchy.segments_eq plain stored, ← hierarchy.segments_eq plain storedToo,
      Group.segments, same, Group.segments]
  have ids : group.id = other.id :=
    String.toList_inj.mp (List.singleton_inj.mp (List.append_inj' segments rfl).2)
  rw [ids, storedToo, Option.some.injEq] at stored
  exact stored.symm

/-- The ancestors that a child's path names are its parent and those that the parent's path
names. -/
theorem ancestorIds_asChildOf (stored : store.groups.find? group.id = some group)
    (above : store.groups.find? parent.id = some parent)
    (child : group = group.asChildOf parent) :
    group.ancestorIds = parent.id :: parent.ancestorIds := by
  rw [Group.ancestorIds_eq, Group.segments_asChildOf child (plain group.id group stored),
    List.dropLast_concat, hierarchy.segments_eq plain above]
  simp [Group.ancestorIds_eq]

/-- The ancestors that the path of a group names are those that the parent pointers lead to. -/
theorem filterMap_ancestorIds (stored : store.groups.find? group.id = some group) :
    (group.ancestorIds.take steps).filterMap store.groups.find? = store.climb steps group := by
  induction steps generalizing group with
  | zero => rfl
  | succ steps ih =>
    rcases hierarchy.inPlace group.id group stored with root | ⟨parent, above, child⟩
    · rw [Group.ancestorIds_asRoot root (plain group.id group stored), climb_asRoot root]
      rfl
    · rw [hierarchy.ancestorIds_asChildOf plain stored above child, climb_asChildOf child above,
        List.take_succ_cons, List.filterMap_cons_some above, ih above]

/-- What lies below a group stands at a deeper level. -/
theorem level_lt_of_isBelow (stored : store.groups.find? group.id = some group)
    (above : store.groups.find? target.id = some target) (below : group.isBelow target) :
    target.level < group.level := by
  revert below
  refine hierarchy.induction (motive := fun lower => lower.isBelow target →
    target.level < lower.level) ?_ ?_ stored
  · intro group stored root below
    exact absurd below (Group.not_isBelow_asRoot root (plain group.id group stored))
  · intro group parent stored storedParent child ih below
    have lower := (Group.eq_asChildOf_iff.mp child).2.2
    rcases (Group.isBelow_asChildOf_iff child (plain group.id group stored)).mp below with
      same | lies
    · rw [hierarchy.eq_of_path_eq plain above storedParent same]
      omega
    · have := ih lies
      omega

/-- A group lies below another, at most a number of levels deeper, exactly if the parent pointers
lead to that in as many steps. -/
theorem mem_climb_iff (stored : store.groups.find? group.id = some group)
    (above : store.groups.find? target.id = some target) :
    target ∈ store.climb steps group ↔
      group.isBelow target ∧ group.level ≤ target.level + steps := by
  induction steps generalizing group with
  | zero =>
    refine ⟨fun mem => absurd mem List.not_mem_nil, ?_⟩
    rintro ⟨below, deep⟩
    exact absurd (hierarchy.level_lt_of_isBelow plain stored above below) (Nat.not_lt.mpr deep)
  | succ steps ih =>
    have own := plain group.id group stored
    -- One step leads to the parent; the others are steps from there.
    rcases hierarchy.inPlace group.id group stored with root | ⟨parent, storedParent, child⟩
    · simp [climb_asRoot root, Group.not_isBelow_asRoot root own]
    · have level := (Group.eq_asChildOf_iff.mp child).2.2
      rw [climb_asChildOf child storedParent, List.mem_cons, ih storedParent,
        Group.isBelow_asChildOf_iff child own, level]
      constructor
      · rintro (rfl | ⟨below, deep⟩)
        · exact ⟨.inl rfl, by omega⟩
        · exact ⟨.inr below, by omega⟩
      · rintro ⟨same | below, deep⟩
        · exact .inl (hierarchy.eq_of_path_eq plain above storedParent same)
        · exact .inr ⟨below, by omega⟩

end Hierarchy

/-! ### Listings -/

/-- The order of a listing of children is that of level, then path. -/
theorem higher_iff (left right : Group) : higher left right ↔ left.rank ≤ right.rank := by
  rw [Group.rank, Group.rank, Prod.Lex.toLex_le_toLex, higher, bne_iff_ne, ne_eq,
    Ordering.then_eq_gt, compare_gt_iff_gt, compare_eq_iff_eq, compare_gt_iff_gt]
  grind

section Keyed

variable (keyed : ∀ id group, store.groups.find? id = some group → group.id = id)

include keyed

theorem mem_values_iff_of_keyed :
    group ∈ store.groups.values ↔ store.groups.find? group.id = some group := by
  rw [Table.mem_values_iff]
  constructor
  · rintro ⟨id, found⟩
    rwa [keyed id group found]
  · intro found
    exact ⟨group.id, found⟩

theorem nodup_ids_of_keyed : (store.groups.values.map (·.id)).Nodup := by
  have keys : store.groups.values.map (·.id) = store.groups.rows.map Prod.fst := by
    rw [Table.values, List.map_map]
    refine List.map_congr_left ?_
    rintro ⟨id, group⟩ row
    exact keyed id group (Table.mem_rows_iff.mp row)
  exact keys ▸ store.groups.nodup_keys

end Keyed

namespace Hierarchy

variable (hierarchy : store.Hierarchy)

include hierarchy

theorem mem_values_iff : group ∈ store.groups.values ↔ store.groups.find? group.id = some group :=
  mem_values_iff_of_keyed hierarchy.keyed

theorem nodup_ids : (store.groups.values.map (·.id)).Nodup :=
  nodup_ids_of_keyed hierarchy.keyed

variable (plain : store.PlainIds) {id : String} {level : Nat}

include plain

theorem parents_eq_climb (levels : 1 ≤ level ∧ level ≤ maxLevel)
    (found : store.groups.find? id = some target) :
    store.parents id level = .ok (store.climb level target) := by
  have stored : store.groups.find? target.id = some target := by
    rwa [hierarchy.keyed id target found]
  exact parents_eq_ok_iff.mpr
    ⟨levels, target, found, hierarchy.filterMap_ancestorIds plain stored⟩

/-- The descendants of a group are the groups whose parent pointers lead to it, in the strict order
of level and path. -/
theorem exists_children (levels : 1 ≤ level ∧ level ≤ maxLevel)
    (found : store.groups.find? id = some target) :
    ∃ below, store.children id level = .ok below ∧
      (∀ group, group ∈ below ↔
        store.groups.find? group.id = some group ∧ target ∈ store.climb level group) ∧
      below.Pairwise fun left right => left.rank < right.rank := by
  have stored : store.groups.find? target.id = some target := by
    rwa [hierarchy.keyed id target found]
  refine ⟨_, children_eq_ok_iff.mpr ⟨levels, target, found, rfl⟩, ?_, ?_⟩
  · intro group
    rw [List.mem_mergeSort, List.mem_filter, hierarchy.mem_values_iff]
    refine and_congr_right fun own => ?_
    rw [hierarchy.mem_climb_iff plain own stored, Bool.and_eq_true, decide_eq_true_iff]
  · -- Stored groups with distinct ids have distinct paths.
    have nodup : (store.groups.values.filter fun other =>
        other.isBelow target && other.level ≤ target.level + level).Nodup :=
      (hierarchy.nodup_ids.of_map _).filter _
    refine pairwise_mergeSort_rank_lt higher_iff (nodup.map_on ?_)
    intro left memLeft right memRight same
    rw [List.mem_filter, hierarchy.mem_values_iff] at memLeft memRight
    have paths : left.path = right.path := congrArg (fun rank => (ofLex rank).2) same
    exact hierarchy.eq_of_path_eq plain memLeft.1 memRight.1 paths

end Hierarchy

end GroupStore

end RelationAuth.Groups
