import RelationAuth.Number.Bounds
import RelationAuth.Proofs.Groups.Lineage

/-!
# Listings of groups

Groups are listed by their age: the instant of their creation and then their id.  In a hierarchy no
two groups have one age, so that a listing is determined by the groups in it.
-/

namespace RelationAuth

theorem Text.occursIn_iff_infix {part : List Char} {text : List Char} :
    occursIn part text ↔ part <:+: text := by
  induction text with
  | nil => simp [occursIn]
  | cons symbol rest ih => simp [occursIn, ih, List.infix_cons_iff]

namespace Groups

/-- The instant of the creation of a group and its id, by which groups are listed. -/
def Group.age (group : Group) : Int ×ₗ Nat ×ₗ String :=
  toLex (group.createdAt.seconds, toLex (group.createdAt.nanos, group.id))

namespace PageRequest

/-- A window's conditions on a group, one by one.  Its name is looked for in lower case. -/
theorem admits_iff {page : PageRequest} {group : Group} :
    page.admits group ↔
      (∀ name ∈ page.name,
        (Text.toLowerCase name).toList <:+: (Text.toLowerCase group.name).toList) ∧
      (∀ status ∈ page.status, status = group.status) ∧
      ∀ owner ∈ page.owner, owner = group.owner := by
  simp only [admits, Bool.and_eq_true, Option.all_eq_true, Text.containsIgnoringCase,
    Text.occursIn_iff_infix, decide_eq_true_eq, and_assoc, Option.mem_def]

/-- The window with a number among windows of one width that stand side by side. -/
def nth (page : PageRequest) (limit number : Nat) : PageRequest :=
  { page with offset := number * limit, limit }

/-- Windows side by side show what one window as wide as all of them shows. -/
theorem flatMap_window_nth {α : Type} (page : PageRequest) {limit : Nat} (positive : 0 < limit)
    (items : List α) (count : Nat) :
    (List.range count).flatMap (fun number => (page.nth limit number).window items) =
      items.take (count * limit) := by
  have width (number : Nat) : (page.nth limit number).limitOrDefault = limit :=
    if_neg positive.ne'
  induction count with
  | zero => simp
  | succ count ih =>
    rw [List.range_succ, List.flatMap_append, ih, List.flatMap_singleton, window, width,
      Nat.succ_mul, List.take_add]
    rfl

end PageRequest

namespace GroupStore

variable {store : GroupStore}

/-- Groups are listed in order of age: by creation time, then id. -/
theorem createdBefore_iff (left right : Group) :
    createdBefore left right ↔ left.age ≤ right.age := by
  rw [Group.age, Group.age, Prod.Lex.toLex_le_toLex, Prod.Lex.toLex_le_toLex, createdBefore,
    Instant.compare, bne_iff_ne, ne_eq, Ordering.then_eq_gt, Ordering.then_eq_gt,
    Ordering.then_eq_eq, compare_gt_iff_gt, compare_gt_iff_gt, compare_gt_iff_gt,
    compare_eq_iff_eq, compare_eq_iff_eq]
  grind

/-- Groups with distinct ids have distinct ages. -/
theorem nodup_ages {groups : List Group} (distinct : (groups.map (·.id)).Nodup) :
    (groups.map Group.age).Nodup := by
  refine List.Nodup.of_map (fun age => (ofLex (ofLex age).2).2) ?_
  rw [List.map_map]
  exact distinct

/-- The order by age is strict among groups of distinct ids, so it does not depend on how they are
stored. -/
theorem mergeSort_createdBefore_eq {left right : List Group} (perm : left.Perm right)
    (distinct : (left.map (·.id)).Nodup) :
    left.mergeSort createdBefore = right.mergeSort createdBefore :=
  mergeSort_eq_of_perm createdBefore_iff perm (nodup_ages distinct)

/-- Whether the groups of a store can be counted with words of 64 bits, as they can wherever a
memory holds them. -/
def Addressable (store : GroupStore) : Prop :=
  store.size < word64Bound

instance : Decidable store.Addressable :=
  inferInstanceAs (Decidable (store.size < word64Bound))

theorem length_listing_le (page : PageRequest) : (store.listing page).length ≤ store.size := by
  rw [listing, List.length_mergeSort, size, Table.size]
  exact (List.length_filter_le _ _).trans (by rw [Table.values, List.length_map])

/-- A window as wide as words go shows a whole listing. -/
theorem items_list (addressable : store.Addressable) (page : PageRequest) {limit : Nat}
    (positive : limit ≠ 0) (wide : word64Bound ≤ limit + 1) :
    (store.list { page with offset := 0, limit }).items = store.listing page := by
  have short : (store.listing page).length ≤ limit := by
    have held : store.size < word64Bound := addressable
    have few := store.length_listing_le page
    omega
  have same : store.listing { page with offset := 0, limit } = store.listing page := rfl
  rw [list, PageRequest.page, same]
  simp only [PageRequest.window, PageRequest.limitOrDefault, if_neg positive, List.drop_zero]
  exact List.take_of_length_le short

end GroupStore

end Groups

end RelationAuth
