import RelationAuth.Proofs.Groups.Listings
import RelationAuth.Proofs.Groups.Members
import RelationAuth.Proofs.Text.OctetOrder

/-!
# What a history leaves in the rows of members

The calls that succeeded say which ids are members of a group: those that were assigned to it and
not unassigned later, since it was saved.  A deletion takes the rows of all groups that go with it,
so that a group saved again under an old id starts without members.  A row is listed in the order of
the octets of its ids.
-/

namespace RelationAuth.Groups

/-- Whether calls assign an id to a group, and afterwards neither unassign it nor save the group. -/
def Assigned (calls : List RepositoryCall) (groupId kind member : String) : Prop :=
  ∃ before ids later, calls = before ++ RepositoryCall.assign groupId kind ids :: later ∧
    member ∈ ids ∧
    (∀ others, RepositoryCall.unassign groupId kind others ∈ later → member ∉ others) ∧
    ∀ group, RepositoryCall.save group ∈ later → group.id ≠ groupId

/-- The last call assigns an id, or it leaves the id assigned. -/
theorem assigned_append_singleton_iff {calls : List RepositoryCall} {call : RepositoryCall}
    {groupId kind member : String} :
    Assigned (calls ++ [call]) groupId kind member ↔
      (∃ ids, call = .assign groupId kind ids ∧ member ∈ ids) ∨
        Assigned calls groupId kind member ∧
          (∀ others, call = .unassign groupId kind others → member ∉ others) ∧
          ∀ group, call = .save group → group.id ≠ groupId := by
  constructor
  · rintro ⟨before, ids, later, split, among, kept, unsaved⟩
    rcases List.eq_nil_or_concat later with rfl | ⟨front, last, rfl⟩
    · rcases List.append_inj' split rfl with ⟨rfl, same⟩
      cases same
      exact .inl ⟨ids, rfl, among⟩
    · rw [List.concat_eq_append] at split kept unsaved
      rw [← List.cons_append, ← List.append_assoc] at split
      rcases List.append_inj' split rfl with ⟨rfl, same⟩
      cases same
      simp only [List.mem_append, List.mem_singleton] at kept unsaved
      refine .inr ⟨⟨before, ids, front, rfl, among, ?_, ?_⟩, ?_, ?_⟩
      · exact fun others mem => kept others (.inl mem)
      · exact fun group mem => unsaved group (.inl mem)
      · exact fun others same => kept others (.inr same.symm)
      · exact fun group same => unsaved group (.inr same.symm)
  · rintro (⟨ids, rfl, among⟩ | ⟨⟨before, ids, later, rfl, among, kept, unsaved⟩, last⟩)
    · refine ⟨calls, ids, [], rfl, among, ?_, ?_⟩ <;> simp
    · refine ⟨before, ids, later ++ [call], by simp, among, ?_, ?_⟩
      · intro others mem
        rcases List.mem_append.mp mem with earlier | now
        · exact kept others earlier
        · exact last.1 others (List.mem_singleton.mp now).symm
      · intro group mem
        rcases List.mem_append.mp mem with earlier | now
        · exact unsaved group earlier
        · exact last.2 group (List.mem_singleton.mp now).symm

theorem sorted_insertId {id : String} {ids : List String} (sorted : ids.Pairwise (· < ·)) :
    (insertId id ids).Pairwise (· < ·) := by
  induction ids with
  | nil => simp [insertId]
  | cons first rest ih =>
    rcases List.pairwise_cons.mp sorted with ⟨least, sortedRest⟩
    rw [insertId]
    split
    · next less =>
      refine List.pairwise_cons.mpr ⟨?_, sorted⟩
      rintro other (_ | ⟨_, mem⟩)
      · exact less
      · exact less.trans (least other mem)
    · next notLess =>
      split
      · exact sorted
      · next differs =>
        refine List.pairwise_cons.mpr ⟨?_, ih sortedRest⟩
        intro other mem
        rcases mem_insertId.mp mem with rfl | old
        · exact lt_of_le_of_ne (not_lt.mp notLess) (Ne.symm differs)
        · exact least other old

theorem sorted_foldl_insertId {ids rows : List String} (sorted : rows.Pairwise (· < ·)) :
    (ids.foldl (fun rows id => insertId id rows) rows).Pairwise (· < ·) := by
  induction ids generalizing rows with
  | nil => exact sorted
  | cons id rest ih => exact ih (sorted_insertId sorted)

namespace GroupStore

variable {store after : GroupStore} {history calls : List RepositoryCall}
  {groupId kind member : String}

/-- The calls of a run that succeed. -/
def successes (store : GroupStore) : List RepositoryCall → List RepositoryCall
  | [] => []
  | call :: rest =>
    match (call.run GroupRepository.inMemory).perform store with
    | (.ok _, after) => call :: after.successes rest
    | (.error _, after) => after.successes rest

theorem successes_cons (call : RepositoryCall) (rest : List RepositoryCall) :
    store.successes (call :: rest) =
      match call.step store with
      | .ok after => call :: after.successes rest
      | .error _ => store.successes rest := by
  rw [successes, call.run_inMemory, Action.perform_change]
  rcases call.step store with cause | after <;> rfl

theorem mem_memberIds_iff : member ∈ store.memberIds groupId kind ↔
    ∃ ids, store.members.find? (groupId, kind) = some ids ∧ member ∈ ids := by
  rw [memberIds]
  rcases store.members.find? (groupId, kind) with _ | ids <;> simp

/-- Whether the rows of a store hold, in order, what successful calls have assigned. -/
structure Holds (store : GroupStore) (history : List RepositoryCall) : Prop where
  mem_iff : ∀ groupId kind member, member ∈ store.memberIds groupId kind ↔
    (∃ group, store.groups.find? groupId = some group) ∧ Assigned history groupId kind member
  sorted : ∀ groupId kind, (store.memberIds groupId kind).Pairwise (· < ·)

theorem holds_empty : GroupStore.empty.Holds [] where
  mem_iff groupId kind member := by simp [empty, memberIds]
  sorted groupId kind := by simp [empty, memberIds]

namespace Holds

/-- A group that is saved has no members yet, and all other memberships stand. -/
theorem save {group placed : Group} (holds : store.Holds history)
    (saved : store.save group = .ok (placed, after)) : after.Holds (history ++ [.save group]) := by
  have rows : ∀ groupId kind, after.memberIds groupId kind = store.memberIds groupId kind := by
    intro groupId kind
    rw [(of_save saved).2.2]
    rfl
  refine ⟨fun groupId kind member => ?_, fun groupId kind => ?_⟩
  · rw [rows, holds.mem_iff, find?_save saved, assigned_append_singleton_iff]
    by_cases own : groupId = group.id
    · simp [own, (of_save saved).1]
    · simp [own, Ne.symm own]
  · rw [rows]
    exact holds.sorted groupId kind

/-- An edit of a group leaves the members alone. -/
theorem modify {edit : Group → Group} {id : String} {edited : Group} {call : RepositoryCall}
    (holds : store.Holds history) (modified : store.modify id edit = .ok (edited, after))
    (edits : ∀ groupId kind member,
      Assigned (history ++ [call]) groupId kind member ↔ Assigned history groupId kind member) :
    after.Holds (history ++ [call]) := by
  rcases modify_eq_ok_iff.mp modified with ⟨group, found, rfl, rfl⟩
  refine ⟨fun groupId kind member => ?_, holds.sorted⟩
  rw [edits, Table.find?_insert]
  refine (holds.mem_iff groupId kind member).trans ?_
  by_cases own : groupId = id
  · simp [own, found]
  · simp [own]

/-- Deleting a group ends the memberships of every group that goes with it. -/
theorem delete {id : String} (holds : store.Holds history)
    (deleted : store.delete id = .ok after) : after.Holds (history ++ [.delete id]) := by
  refine ⟨fun groupId kind member => ?_, fun groupId kind => ?_⟩
  · have rows : member ∈ after.memberIds groupId kind ↔ member ∈ store.memberIds groupId kind ∧
        ∃ group, after.groups.find? groupId = some group := by
      simp only [mem_memberIds_iff, members_delete deleted, and_right_comm, exists_and_right]
    rcases of_delete deleted with ⟨_, _, remains⟩
    have stored : (∃ group, after.groups.find? groupId = some group) →
        ∃ group, store.groups.find? groupId = some group := by
      rintro ⟨group, found⟩
      exact ⟨group, ((remains groupId group).mp found).1⟩
    rw [rows, holds.mem_iff, assigned_append_singleton_iff]
    simp only [reduceCtorEq, false_and, exists_false, false_or, IsEmpty.forall_iff, implies_true,
      and_true]
    tauto
  · rcases row : after.members.find? (groupId, kind) with _ | ids
    · simp [memberIds, row]
    · have old := ((members_delete deleted groupId kind ids).mp row).1
      have sorted := holds.sorted groupId kind
      rw [memberIds, old] at sorted
      rw [memberIds, row]
      exact sorted

/-- An assignment is the last word on the members that it names, and on nobody else. -/
theorem assign {id kind : String} {ids : List String} (holds : store.Holds history)
    (assigned : store.assign id kind ids = .ok after) :
    after.Holds (history ++ [.assign id kind ids]) := by
  rcases of_assign assigned with ⟨stored, same⟩
  refine ⟨fun groupId otherKind member => ?_, fun groupId otherKind => ?_⟩
  · rw [mem_memberIds_assign assigned, holds.mem_iff, same, assigned_append_singleton_iff]
    simp only [RepositoryCall.assign.injEq, reduceCtorEq, IsEmpty.forall_iff, implies_true,
      and_true]
    constructor
    · rintro (⟨storedToo, old⟩ | ⟨⟨rfl, rfl⟩, among⟩)
      · exact ⟨storedToo, .inr old⟩
      · exact ⟨stored, .inl ⟨ids, ⟨rfl, rfl, rfl⟩, among⟩⟩
    · rintro ⟨storedToo, ⟨_, ⟨rfl, rfl, rfl⟩, among⟩ | old⟩
      · exact .inr ⟨⟨rfl, rfl⟩, among⟩
      · exact .inl ⟨storedToo, old⟩
  · rw [memberIds, members_assign assigned]
    split
    · exact sorted_foldl_insertId (holds.sorted id kind)
    · exact holds.sorted groupId otherKind

/-- A removal of members is the last word on the members that it names, and on nobody else. -/
theorem unassign {id kind : String} {ids : List String} (holds : store.Holds history)
    (unassigned : store.unassign id kind ids = .ok after) :
    after.Holds (history ++ [.unassign id kind ids]) := by
  rcases of_unassign unassigned with ⟨stored, same⟩
  refine ⟨fun groupId otherKind member => ?_, fun groupId otherKind => ?_⟩
  · rw [mem_memberIds_unassign unassigned, holds.mem_iff, same, assigned_append_singleton_iff]
    simp only [RepositoryCall.unassign.injEq, reduceCtorEq, false_and, exists_false, false_or,
      IsEmpty.forall_iff, implies_true, and_true]
    constructor
    · rintro ⟨⟨storedToo, old⟩, kept⟩
      refine ⟨storedToo, old, ?_⟩
      rintro _ ⟨rfl, rfl, rfl⟩ among
      exact kept ⟨⟨rfl, rfl⟩, among⟩
    · rintro ⟨storedToo, old, kept⟩
      refine ⟨⟨storedToo, old⟩, ?_⟩
      rintro ⟨⟨rfl, rfl⟩, among⟩
      exact kept ids ⟨rfl, rfl, rfl⟩ among
  · rw [memberIds, members_unassign unassigned]
    split
    · next own =>
      rcases Prod.mk.inj own with ⟨rfl, rfl⟩
      have sorted := holds.sorted groupId otherKind
      rw [memberIds] at sorted
      rcases row : store.members.find? (groupId, otherKind) with _ | members
      · exact List.Pairwise.nil
      · rw [row] at sorted
        exact sorted.filter _
    · exact holds.sorted groupId otherKind

/-- A call that succeeds is one more in the history. -/
theorem step {call : RepositoryCall} (holds : store.Holds history)
    (stepped : call.step store = .ok after) : after.Holds (history ++ [call]) := by
  cases call with
  | save group =>
    rcases exists_fst_of_map_snd_eq_ok stepped with ⟨placed, saved⟩
    exact holds.save saved
  | update amendment =>
    rcases exists_fst_of_map_snd_eq_ok stepped with ⟨edited, updated⟩
    exact holds.modify updated fun _ _ _ => by simp [assigned_append_singleton_iff]
  | changeStatus id status moment editor =>
    rcases exists_fst_of_map_snd_eq_ok stepped with ⟨edited, changed⟩
    exact holds.modify changed fun _ _ _ => by simp [assigned_append_singleton_iff]
  | delete id => exact holds.delete stepped
  | assign id kind ids => exact holds.assign stepped
  | unassign id kind ids => exact holds.unassign stepped

/-- Along a run, the rows hold what the calls that succeeded say. -/
theorem afterCalls (holds : store.Holds history) :
    (store.afterCalls calls).Holds (history ++ store.successes calls) := by
  induction calls generalizing store history with
  | nil => simpa [successes, GroupStore.afterCalls] using holds
  | cons call rest ih =>
    rw [GroupStore.afterCalls, List.foldl_cons, ← GroupStore.afterCalls, afterCall_eq,
      successes_cons]
    rcases outcome : call.step store with cause | after
    · exact ih holds
    · rw [List.append_cons]
      exact ih (holds.step outcome)

end Holds

/-! ### What is listed -/

/-- Listing members reads a page of the group's row, or fails for want of the group. -/
theorem perform_members (page : PageRequest) :
    (GroupRepository.inMemory.members groupId kind page).perform store =
      match store.groups.find? groupId with
      | some _ => (.ok (page.page (store.memberIds groupId kind)), store)
      | none => (.error (.failure .notFound), store) := by
  refine Action.perform_query.trans ?_
  rw [listMembers, retrieve]
  rcases store.groups.find? groupId with _ | group <;> rfl

/-- A change of the members of one group and kind is not seen in the listings of any other. -/
theorem perform_members_afterCall {call : RepositoryCall} {otherId otherKind : String}
    {ids : List String} (elsewhere : (groupId, kind) ≠ (otherId, otherKind))
    (changes : call = .assign otherId otherKind ids ∨ call = .unassign otherId otherKind ids)
    (page : PageRequest) :
    ((GroupRepository.inMemory.members groupId kind page).perform (store.afterCall call)).1 =
      ((GroupRepository.inMemory.members groupId kind page).perform store).1 := by
  have frame : (store.afterCall call).groups = store.groups ∧
      (store.afterCall call).memberIds groupId kind = store.memberIds groupId kind := by
    rw [afterCall_eq]
    rcases outcome : call.step store with cause | after
    · exact ⟨rfl, rfl⟩
    · rcases changes with rfl | rfl
      · refine ⟨(of_assign outcome).2, ?_⟩
        simp only [memberIds, members_assign outcome, if_neg elsewhere]
      · refine ⟨(of_unassign outcome).2, ?_⟩
        simp only [memberIds, members_unassign outcome, if_neg elsewhere]
  rw [perform_members, perform_members, frame.1, frame.2]
  rcases store.groups.find? groupId with _ | group <;> rfl

/-- Members are listed by what happened.  After any run of calls on an empty repository, the members
of a group that is not stored are not found, and those of a stored group are the ids that successful
calls have assigned since it was saved and not unassigned later.  They are listed in the order of
their octets, each once; the total counts them in every window, and windows side by side that reach
far enough show all of them.  Members that come or go elsewhere make no difference. -/
theorem members_refine_history {calls : List RepositoryCall} {store : GroupStore}
    (run : GroupStore.empty.afterCalls calls = store) (groupId kind : String) :
    (∀ page, (GroupRepository.inMemory.members groupId kind page).perform store =
        (.error (.failure .notFound), store) ↔ store.groups.find? groupId = none) ∧
      (∀ group, store.groups.find? groupId = some group →
        ∃ ids : List String,
          ids.Pairwise (fun left right => Utf8.encode left < Utf8.encode right) ∧
            (∀ member, member ∈ ids ↔
              Assigned (GroupStore.empty.successes calls) groupId kind member) ∧
            (∀ page, (GroupRepository.inMemory.members groupId kind page).perform store =
              (.ok { total := ids.length
                     offset := page.offset
                     limit := page.limitOrDefault
                     items := (ids.drop page.offset).take page.limitOrDefault }, store)) ∧
            ∀ (page : PageRequest) limit count, 0 < limit → ids.length ≤ count * limit →
              ∃ pages, ((List.range count).mapM fun number =>
                  GroupRepository.inMemory.members groupId kind (page.nth limit number)).perform
                    store = (.ok pages, store) ∧ pages.flatMap (·.items) = ids) ∧
      ∀ otherId otherKind ids call, (groupId, kind) ≠ (otherId, otherKind) →
        call = .assign otherId otherKind ids ∨ call = .unassign otherId otherKind ids →
        ∀ page,
          ((GroupRepository.inMemory.members groupId kind page).perform (store.afterCall call)).1 =
            ((GroupRepository.inMemory.members groupId kind page).perform store).1 := by
  have holds : store.Holds (GroupStore.empty.successes calls) := by
    rw [← run]
    exact holds_empty.afterCalls
  refine ⟨fun page => ?_, fun group found => ⟨store.memberIds groupId kind, ?_, ?_, ?_, ?_⟩, ?_⟩
  · rw [perform_members]
    rcases store.groups.find? groupId with _ | group <;> simp
  · exact (holds.sorted groupId kind).imp Utf8.encode_lt_encode_iff.mpr
  · intro member
    simp [holds.mem_iff, found]
  · intro page
    rw [perform_members, found]
    rfl
  · intro page limit count positive wide
    have answers : ∀ number, (GroupRepository.inMemory.members groupId kind
        (page.nth limit number)).perform store =
          (.ok ((page.nth limit number).page (store.memberIds groupId kind)), store) := by
      intro number
      rw [perform_members, found]
    refine ⟨_, Action.perform_mapM_of_answers fun number _ => answers number, ?_⟩
    rw [List.flatMap_map]
    refine (page.flatMap_window_nth positive _ count).trans ?_
    exact List.take_of_length_le wide
  · exact fun otherId otherKind ids call elsewhere changes page =>
      perform_members_afterCall elsewhere changes page

/-- A group with members goes with the group above it and is saved again; one assignment is refused,
and one id is assigned and unassigned. -/
def regrowingCalls : List RepositoryCall :=
  [.save (sprout "a" none), .save (sprout "b" (some "a")), .assign "b" "things" ["t"],
    .delete "a", .assign "b" "things" ["u"], .save (sprout "b" none),
    .assign "b" "things" ["x", "w", "v", "x"], .assign "b" "channels" ["t"],
    .unassign "b" "things" ["w"]]

/-- A group that is deleted and saved again starts without its former members. -/
theorem members_refine_history_regrowing :
    (GroupRepository.inMemory.members "b" "things" { offset := 1, limit := 3 }).perform
        (GroupStore.empty.afterCalls regrowingCalls) =
          (.ok { total := 2, offset := 1, limit := 3, items := ["x"] },
            GroupStore.empty.afterCalls regrowingCalls) ∧
      ∀ member, member = "v" ∨ member = "x" ↔
        Assigned (GroupStore.empty.successes regrowingCalls) "b" "things" member := by
  have run : GroupStore.empty.afterCalls regrowingCalls = _ := rfl
  rcases (members_refine_history run "b" "things").2.1 _ rfl with ⟨ids, _, among, listed, _⟩
  have whole := (listed { limit := 2 }).symm.trans
    (show _ = (Except.ok { total := 2, offset := 0, limit := 2, items := ["v", "x"] }, _) from rfl)
  simp only [Prod.mk.injEq, Except.ok.injEq, Page.mk.injEq, and_true, List.drop_zero] at whole
  rcases whole with ⟨two, _, _, items⟩
  obtain rfl : ids = ["v", "x"] := by
    rw [← items]
    exact (List.take_of_length_le two.le).symm
  refine ⟨listed _, fun member => ?_⟩
  rw [← among]
  simp

end GroupStore

end RelationAuth.Groups
