import RelationAuth.Proofs.Policy.Reachability

/-!
# Checks after tuples are written

Writing tuples adds steps to the graph of goals and takes none away, so every chain that led to a
direct goal still does.  A check can deny what it granted before all the same: along the new steps
it may come to a goal of that chain only when its own steps are used up, and it does not enter a goal
twice.  These theorems say when that happens, and when it cannot.
-/

namespace RelationAuth.Policy

namespace Goal

variable {store : TupleStore} {schema : PermissionSchema} {subject : Subject}
  {written : List RelationTuple} {goal next last : Goal} {rest : List Goal}

theorem Direct.write (direct : goal.Direct store schema subject) :
    goal.Direct (store.write written) schema subject := by
  rcases direct with ⟨relation, grants, stored⟩
  exact ⟨relation, grants, TupleStore.stores_write.mpr (Or.inl stored)⟩

theorem Step.write (step : Step store schema goal next) :
    Step (store.write written) schema goal next := by
  have kept : ∀ tuple ∈ store.tuples, tuple ∈ (store.write written).tuples :=
    fun _ mem => TupleStore.tuples_sublist_write.subset mem
  cases step with
  | throughSet stored concerned granting named =>
    exact .throughSet (kept _ stored) concerned granting named
  | throughParent permission inherits stored concerned linked =>
    exact .throughParent permission inherits (kept _ stored) concerned linked

/-- A chain of goals stands in a store that has grown. -/
theorem Chain.write (chain : Chain store schema goal rest last) :
    Chain (store.write written) schema goal rest last :=
  chain.mono fun _ _ step => step.write

end Goal

namespace TupleStore

variable {store : TupleStore} {schema : PermissionSchema} {subject : Subject} {start : Goal}
  {written : List RelationTuple}

/-- After tuples are written, a check grants what a chain led to before, unless a goal inside the
chain is also the end of a chain of distinct goals that uses up the steps of the check. -/
theorem check_write_of_chain (addressable : (store.write written).Addressable)
    {rest : List Goal} {last : Goal} (chain : Goal.Chain store schema start rest last)
    (direct : last.Direct store schema subject)
    (early : ∀ inner ∈ rest.dropLast, ∀ others,
      Goal.Chain (store.write written) schema start others inner → (start :: others).Nodup →
        others.length ≠ maxCheckSteps) :
    (store.write written).check schema subject start = .ok true := by
  refine (check_iff_chain_off_boundary addressable).mpr ⟨rest, last, chain.write, direct.write, ?_⟩
  intro inner onChain met
  rcases chain_to_boundary met with ⟨others, usedUp, length, nodup⟩
  exact early inner onChain others usedUp nodup length

/-- A check that grants goes on to grant after tuples are written exactly if a chain then leads to a
direct goal past the goals that the check meets only at its last step.  If it does not, then a goal
inside a chain that led to a direct goal before is now the end of a chain of ten steps. -/
theorem check_write_of_granted_iff (store : TupleStore) (schema : PermissionSchema)
    (written : List RelationTuple) (subject : Subject) (start : Goal)
    (addressable : (store.write written).Addressable)
    (granted : store.check schema subject start = .ok true) :
    ((store.write written).check schema subject start = .ok true ↔
      ∃ rest last, Goal.Chain (store.write written) schema start rest last ∧
        last.Direct (store.write written) schema subject ∧
        ∀ inner ∈ rest.dropLast, inner ∉ (store.write written).boundaryGoals schema subject start) ∧
    ((store.write written).check schema subject start ≠ .ok true →
      ∃ rest last, Goal.Chain store schema start rest last ∧ last.Direct store schema subject ∧
        rest.length ≤ 10 ∧
        ∃ inner ∈ rest.dropLast, ∃ others,
          Goal.Chain (store.write written) schema start others inner ∧ (start :: others).Nodup ∧
            others.length = 10) := by
  refine ⟨check_iff_chain_off_boundary addressable, ?_⟩
  intro denied
  rcases chain_of_check addressable.ofWrite granted with ⟨rest, last, chain, direct, short⟩
  refine ⟨rest, last, chain, direct, short, ?_⟩
  by_contra none
  refine denied (check_write_of_chain addressable chain direct ?_)
  intro inner onChain others usedUp nodup length
  exact none ⟨inner, onChain, others, usedUp, nodup, length⟩

/-- The tuple that makes the members of one group hold a relation on another. -/
def membersHold (group relation holders : String) : RelationTuple :=
  ⟨"", groupType, group, relation, groupType, .set ⟨groupType, holders, memberRelation⟩⟩

/-- Alice is two groups below the members of a team, at the end also of a chain of ten groups. -/
def teamBesideChain : TupleStore :=
  TupleStore.empty.write [
    membersHold "team" memberRelation "unit", membersHold "unit" memberRelation "crew",
    ⟨"", groupType, "crew", memberRelation, userType, .id "alice"⟩,
    membersHold "one" memberRelation "two", membersHold "two" memberRelation "three",
    membersHold "three" memberRelation "four", membersHold "four" memberRelation "five",
    membersHold "five" memberRelation "six", membersHold "six" memberRelation "seven",
    membersHold "seven" memberRelation "eight", membersHold "eight" memberRelation "nine",
    membersHold "nine" memberRelation "unit"]

/-- A grant that is lost: making the first group of the chain administrate the team, the check comes
to the unit along the chain, ten steps from the team, and stops there. -/
theorem granted_then_denied_teamBesideChain :
    teamBesideChain.check .groupsSchema (.id "alice") ⟨"", groupType, "team", viewPermission⟩ =
        .ok true ∧
      (teamBesideChain.write [membersHold "team" administratorRelation "one"]).check .groupsSchema
          (.id "alice") ⟨"", groupType, "team", viewPermission⟩ =
        .ok false := by
  have addressable : (teamBesideChain.write
      [membersHold "team" administratorRelation "one"]).Addressable := by decide
  rw [check_eq addressable, check_eq addressable.ofWrite]
  exact ⟨congrArg Except.ok (by decide +kernel), congrArg Except.ok (by decide +kernel)⟩

/-- A grant that is kept: administrated from the second group on, the unit is nine steps away. -/
theorem granted_still_teamBesideChain :
    ((teamBesideChain.write [membersHold "team" administratorRelation "two"]).Addressable ∧
      teamBesideChain.check .groupsSchema (.id "alice") ⟨"", groupType, "team", viewPermission⟩ =
        .ok true) ∧
    ∃ rest last,
      Goal.Chain (teamBesideChain.write [membersHold "team" administratorRelation "two"])
        .groupsSchema ⟨"", groupType, "team", viewPermission⟩ rest last ∧
      last.Direct (teamBesideChain.write [membersHold "team" administratorRelation "two"])
        .groupsSchema (.id "alice") ∧
      ∀ inner ∈ rest.dropLast,
        inner ∉ (teamBesideChain.write
            [membersHold "team" administratorRelation "two"]).boundaryGoals
          .groupsSchema (.id "alice") ⟨"", groupType, "team", viewPermission⟩ := by
  have addressable : (teamBesideChain.write
      [membersHold "team" administratorRelation "two"]).Addressable := by decide
  have granted : teamBesideChain.check .groupsSchema (.id "alice")
      ⟨"", groupType, "team", viewPermission⟩ = .ok true :=
    (check_eq addressable.ofWrite).trans (congrArg Except.ok (by decide +kernel))
  have still : (teamBesideChain.write [membersHold "team" administratorRelation "two"]).check
      .groupsSchema (.id "alice") ⟨"", groupType, "team", viewPermission⟩ = .ok true :=
    (check_eq addressable).trans (congrArg Except.ok (by decide +kernel))
  exact ⟨⟨addressable, granted⟩,
    (check_write_of_granted_iff _ _ _ _ _ addressable granted).1.mp still⟩

end TupleStore

end RelationAuth.Policy
