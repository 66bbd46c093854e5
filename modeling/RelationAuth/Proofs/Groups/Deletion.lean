import RelationAuth.Proofs.Groups.Runs

/-!
# Deleting a subtree

A deletion goes by paths: besides the group itself it takes away every group whose path goes on from
the path of the group after a point.  Where ids hold no point, these are the groups whose parent
pointers lead to the group, also if ids of others begin with its id; and rows of members go with
their groups.
-/

namespace RelationAuth.Groups.GroupStore

variable {store after : GroupStore} {group target : Group} {id other : String}

/-- The parent pointers of a group that lies below another lead to that. -/
theorem Hierarchy.descends_of_isBelow (hierarchy : store.Hierarchy) (plain : store.PlainIds)
    (stored : store.groups.find? group.id = some group)
    (above : store.groups.find? target.id = some target) (below : group.isBelow target) :
    Relation.TransGen store.PointsTo group.id target.id := by
  revert below
  refine hierarchy.induction (motive := fun lower => lower.isBelow target →
    Relation.TransGen store.PointsTo lower.id target.id) ?_ ?_ stored
  · intro root storedRoot isRoot below
    exact absurd below (Group.not_isBelow_asRoot isRoot (plain root.id root storedRoot))
  · intro child parent storedChild storedParent isChild ih below
    have points : store.PointsTo child.id parent.id :=
      ⟨child, storedChild, (Group.eq_asChildOf_iff.mp isChild).1⟩
    rcases (Group.isBelow_asChildOf_iff isChild (plain child.id child storedChild)).mp below with
      same | parentBelow
    · rw [hierarchy.eq_of_path_eq plain above storedParent same]
      exact .single points
    · exact .head points (ih parentBelow)

namespace Coherent

/-- A deletion leaves every group that does not lie under the deleted one. -/
theorem find?_delete_of_others (coherent : store.Coherent) (deleted : store.delete id = .ok after)
    (others : ¬Relation.ReflTransGen store.PointsTo other id) :
    after.groups.find? other = store.groups.find? other := by
  rcases of_delete deleted with ⟨target, found, remains⟩
  apply Option.ext
  intro group
  rw [remains]
  refine ⟨fun kept => kept.1, fun stored => ⟨stored, ?_, ?_⟩⟩
  · rintro rfl
    exact others .refl
  · intro below
    have ownGroup := coherent.hierarchy.keyed other group stored
    have ownTarget := coherent.hierarchy.keyed id target found
    subst ownGroup ownTarget
    apply others
    exact (coherent.hierarchy.descends_of_isBelow coherent.plain stored found below).to_reflTransGen

/-- The member rows of the groups that stay are left as they are. -/
theorem find?_members_delete_of_others (coherent : store.Coherent)
    (deleted : store.delete id = .ok after)
    (others : ¬Relation.ReflTransGen store.PointsTo other id) (kind : String) :
    after.members.find? (other, kind) = store.members.find? (other, kind) := by
  apply Option.ext
  intro ids
  rw [members_delete deleted, coherent.find?_delete_of_others deleted others]
  exact and_iff_left_of_imp (coherent.housed other kind ids)

end Coherent

/-- A group that goes takes its member rows with it. -/
theorem members_delete_of_lost (deleted : store.delete id = .ok after)
    (lost : after.groups.find? other = none) (kind : String) :
    after.members.find? (other, kind) = none := by
  rw [Option.eq_none_iff_forall_ne_some]
  intro ids kept
  rcases ((members_delete deleted other kind ids).mp kept).2 with ⟨group, held⟩
  rw [lost] at held
  cases held

/-- Deleting a group takes away its subtree and nothing else.  After any calls that save no id with
a point, a deletion fails if the group is not stored, and leaves the store as it is.  Otherwise it
succeeds: of the groups it removes exactly those whose parent pointers lead to the deleted one,
which is one of them, and with them all rows of their members; every other group and row stays. -/
theorem deletion_removes_subtree {calls : List RepositoryCall}
    (plain : ∀ call ∈ calls, call.PlainId) (run : GroupStore.empty.afterCalls calls = store) (id : String) :
    (store.groups.find? id = none →
      (GroupRepository.inMemory.delete id).perform store = (.error (.failure .notFound), store)) ∧
    ∀ target, store.groups.find? id = some target →
      ∃ after, (GroupRepository.inMemory.delete id).perform store = (.ok (), after) ∧
        (∀ lower, Relation.ReflTransGen store.PointsTo lower id →
          (∃ group, store.groups.find? lower = some group) ∧
            after.groups.find? lower = none ∧
            ∀ kind, after.members.find? (lower, kind) = none) ∧
        ∀ other, ¬Relation.ReflTransGen store.PointsTo other id →
          after.groups.find? other = store.groups.find? other ∧
            ∀ kind, after.members.find? (other, kind) = store.members.find? (other, kind) := by
  have coherent : store.Coherent := run ▸ coherent_empty.afterCalls plain
  constructor
  · intro missing
    have refused : store.delete id = .error .notFound := by
      simp [delete, retrieve, missing, bind, Except.bind]
    simp [GroupRepository.inMemory, Action.perform_change, refused]
  · intro target found
    obtain ⟨after, deleted⟩ : ∃ after, store.delete id = .ok after := by
      simp [delete, retrieve, found, bind, Except.bind, pure, Except.pure]
    refine ⟨after, by simp [GroupRepository.inMemory, Action.perform_change, deleted], ?_, ?_⟩
    · intro lower descends
      rcases coherent.hierarchy.lost_of_descendant deleted descends with ⟨stored, lost⟩
      exact ⟨stored, lost, members_delete_of_lost deleted lost⟩
    · intro other others
      exact ⟨coherent.find?_delete_of_others deleted others,
        coherent.find?_members_delete_of_others deleted others⟩

/-- A root with a group below it, beside a root whose id begins with the id of the first. -/
def siblingCalls : List RepositoryCall :=
  [.save (sprout "a" none), .save (sprout "ab" none), .save (sprout "c" (some "a")),
    .assign "c" "things" ["t"], .assign "ab" "things" ["t"]]

/-- Deleting a group takes the groups under it, with their members, and leaves the sibling
whose path only begins alike. -/
theorem deletion_removes_subtree_siblings :
    ∃ store after, GroupStore.empty.afterCalls siblingCalls = store ∧
      (GroupRepository.inMemory.delete "a").perform store = (.ok (), after) ∧
      after.groups.find? "c" = none ∧ after.members.find? ("c", "things") = none ∧
      after.groups.find? "ab" = store.groups.find? "ab" ∧
      after.members.find? ("ab", "things") = some ["t"] := by
  have plain : ∀ call ∈ siblingCalls, call.PlainId := by
    simp [siblingCalls, RepositoryCall.PlainId, sprout]
  rcases (deletion_removes_subtree plain rfl "a").2 _ rfl with ⟨after, deleted, lost, kept⟩
  have below := lost "c" (.single ⟨_, rfl, rfl⟩)
  have beside := kept "ab" ?_
  · exact ⟨_, after, rfl, deleted, below.2.1, below.2.2 "things", beside.1, beside.2 "things"⟩
  · -- The other root points nowhere.
    intro leads
    rcases Relation.ReflTransGen.cases_head leads with same | ⟨next, ⟨group, found, points⟩, _⟩
    · revert same
      decide
    · cases found
      cases points

end RelationAuth.Groups.GroupStore
