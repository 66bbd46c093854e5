import RelationAuth.Proofs.Policy.ListingOrder

/-!
# Isolation of namespaces

Every look-up that a check in a namespace makes names this namespace, and so does every goal that it
comes to.  A listing in a namespace depends on the tuples of the namespace alone: no two of them have
one rank, so that the order of ranks leaves no choice.  So what is stored in other namespaces cannot
be told from a named one.
-/

namespace RelationAuth.Policy

variable {namespaceName : String}

/-! ### Walks of readers that agree -/

/-- Whether look-ups in a namespace do not tell one reader from another. -/
structure TupleReader.AgreeIn (namespaceName : String) (left right : TupleReader) : Prop where
  holds : ∀ tuple : RelationTuple, tuple.namespaceName = namespaceName →
    left.holds tuple = right.holds tuple
  readAll : ∀ filter : TupleFilter, filter.namespaceName = some namespaceName →
    left.readAll filter = right.readAll filter

/-- The sets that hold a goal are sought in its own namespace. -/
theorem Goal.namespaceName_of_mem_throughSets {goal next : Goal} {holders : List RelationTuple}
    (mem : next ∈ goal.throughSets holders) : next.namespaceName = goal.namespaceName := by
  simp only [throughSets, List.mem_filterMap] at mem
  rcases mem with ⟨holder, _, leads⟩
  split at leads
  · simp at leads
  · rw [← Option.some.inj leads]

theorem Goal.namespaceName_of_mem_throughParents {goal next : Goal} {parentType : String}
    {parents : List RelationTuple} (mem : next ∈ goal.throughParents parentType parents) :
    next.namespaceName = goal.namespaceName := by
  simp only [throughParents, List.mem_map] at mem
  rcases mem with ⟨_, _, rfl⟩
  rfl

section Walks

variable {left right : TupleReader} {visit other : Goal → List Goal → Except PolicyError Walk}

/-- A walk depends only on how its own goals are visited. -/
theorem walkGoals_congr {goals : List Goal} (same : ∀ goal ∈ goals, visit goal = other goal)
    (visited : List Goal) : walkGoals visit goals visited = walkGoals other goals visited := by
  induction goals generalizing visited with
  | nil => rfl
  | cons goal rest ih =>
    rw [List.forall_mem_cons] at same
    simp only [walkGoals, same.1, ih same.2]

theorem walkSources_congr {α : Type} (read : α → Except PolicyError (List RelationTuple))
    (lead : α → List RelationTuple → List Goal)
    (same : ∀ source tuples, ∀ goal ∈ lead source tuples, visit goal = other goal)
    (sources : List α) (visited : List Goal) :
    walkSources (fun source => do return lead source (← read source)) visit sources visited =
      walkSources (fun source => do return lead source (← read source)) other sources visited := by
  induction sources generalizing visited with
  | nil => rfl
  | cons source rest ih =>
    have first : ∀ tuples seen, walkGoals visit (lead source tuples) seen =
        walkGoals other (lead source tuples) seen := fun tuples => walkGoals_congr (same source tuples)
    simp only [walkSources, bind_assoc, pure_bind, first, ih]

theorem anyDirect_congr (agree : left.AgreeIn namespaceName right) {goal : Goal}
    (inside : goal.namespaceName = namespaceName) (subject : Subject) (relations : List String) :
    anyDirect left subject goal relations = anyDirect right subject goal relations := by
  induction relations with
  | nil => rfl
  | cons relation rest ih =>
    have look := agree.holds (goal.directTuple subject relation) inside
    simp only [anyDirect, look, ih]

/-- Readers that agree in a namespace make one walk from each of its goals. -/
theorem walkFrom_congr (named : namespaceName ≠ "") (agree : left.AgreeIn namespaceName right)
    (schema : PermissionSchema) (subject : Subject) (levels : Nat) {goal : Goal}
    (inside : goal.namespaceName = namespaceName) (visited : List Goal) :
    walkFrom left schema subject levels goal visited =
      walkFrom right schema subject levels goal visited := by
  induction levels generalizing goal visited with
  | zero => rfl
  | succ levels ih =>
    have lists : ∀ relation, left.readAll (goal.holdersFilter relation) =
        right.readAll (goal.holdersFilter relation) := by
      intro relation
      apply agree.readAll
      simp [Goal.holdersFilter, nonEmpty?, inside, named]
    -- The goals to which sets and parents lead are in the namespace again.
    have sets := walkSources_congr (fun relation => right.readAll (goal.holdersFilter relation))
      (fun _ => goal.throughSets) fun _ _ _ mem =>
        funext (ih ((Goal.namespaceName_of_mem_throughSets mem).trans inside))
    have parents := walkSources_congr
      (fun link : ParentLink => right.readAll (goal.holdersFilter link.relation))
      (fun link => goal.throughParents link.parentType) fun _ _ _ mem =>
        funext (ih ((Goal.namespaceName_of_mem_throughParents mem).trans inside))
    simp only [walkFrom, anyDirect_congr agree inside, lists, sets, parents]

/-- A check in a namespace depends only on what the readers answer in it. -/
theorem check_congr (named : namespaceName ≠ "") (agree : left.AgreeIn namespaceName right)
    (schema : PermissionSchema) (subject : Subject) {goal : Goal}
    (inside : goal.namespaceName = namespaceName) :
    check left schema subject goal = check right schema subject goal := by
  rw [check, check, walkFrom_congr named agree schema subject _ inside]

end Walks

namespace TupleStore

/-! ### Stores that agree -/

/-- Whether two stores hold the same tuples of a namespace. -/
def AgreeIn (namespaceName : String) (left right : TupleStore) : Prop :=
  ∀ tuple : RelationTuple, tuple.namespaceName = namespaceName →
    (tuple ∈ left.tuples ↔ tuple ∈ right.tuples)

/-- Whether checks and pages of listings in a namespace do not tell one store from another. -/
structure LooksLike (namespaceName : String) (left right : TupleStore) : Prop where
  check : ∀ (schema : PermissionSchema) (subject : Subject) (goal : Goal),
    goal.namespaceName = namespaceName →
      left.check schema subject goal = right.check schema subject goal
  read : ∀ (filter : TupleFilter) (pageToken : String) (limit : Nat),
    filter.namespaceName = some namespaceName →
      left.read filter pageToken limit = right.read filter pageToken limit

section Agreement

variable {left right : TupleStore}

theorem AgreeIn.holds_eq (agree : left.AgreeIn namespaceName right) {tuple : RelationTuple}
    (inside : tuple.namespaceName = namespaceName) : left.holds tuple = right.holds tuple := by
  rw [Bool.eq_iff_iff, holds_iff, holds_iff]
  apply exists_congr
  intro other
  refine and_congr_left fun same => ?_
  exact agree other ((congrArg TupleKey.namespaceName same).trans inside)

/-- Among the tuples of one namespace, rank tells them apart. -/
theorem Unrepeated.eq_of_rank_eq {store : TupleStore} (unrepeated : store.Unrepeated)
    {tuple other : RelationTuple} (mem : tuple ∈ store.tuples) (otherMem : other ∈ store.tuples)
    (together : tuple.namespaceName = other.namespaceName) (level : tuple.rank = other.rank) :
    tuple = other := by
  rcases RelationTuple.rank_eq_iff.mp level with ⟨_, object, relation, subject⟩
  apply unrepeated.eq_of_key_eq mem otherMem
  simp [RelationTuple.key, together, object, relation, subject]

/-- Stores that agree in a namespace list the same tuples there, in the same order. -/
theorem AgreeIn.matching_eq (agree : left.AgreeIn namespaceName right)
    (leftUnrepeated : left.Unrepeated) (rightUnrepeated : right.Unrepeated) {filter : TupleFilter}
    (inside : filter.namespaceName = some namespaceName) :
    left.matching filter = right.matching filter := by
  have within : ∀ tuple, filter.admitsTuple tuple → tuple.namespaceName = namespaceName := by
    intro tuple admitted
    simp only [TupleFilter.admitsTuple, inside, Bool.and_eq_true, TupleFilter.admits_some_iff]
      at admitted
    exact admitted.1.1.1.1.1
  have perm : (left.matching filter).Perm (right.matching filter) := by
    rw [List.perm_ext_iff_of_nodup (leftUnrepeated.nodup_matching filter)
      (rightUnrepeated.nodup_matching filter)]
    intro tuple
    rw [mem_matching_iff, mem_matching_iff]
    exact and_congr_left fun admitted => agree tuple (within tuple admitted)
  -- Within the namespace no two tuples have one rank, so that sorting leaves no choice.
  refine perm.eq_of_pairwise ?_ (left.pairwise_matching filter) (right.pairwise_matching filter)
  intro tuple other mem otherMem before after
  rw [← perm.mem_iff] at otherMem
  rw [mem_matching_iff] at mem otherMem
  exact leftUnrepeated.eq_of_rank_eq mem.1 otherMem.1
    ((within tuple mem.2).trans (within other otherMem.2).symm) (le_antisymm before after)

theorem read_eq_of_matching_eq {filter : TupleFilter}
    (same : left.matching filter = right.matching filter) (pageToken : String) (limit : Nat) :
    left.read filter pageToken limit = right.read filter pageToken limit := by
  simp only [read, same]

theorem readAll_eq_of_matching_eq {filter : TupleFilter}
    (same : left.matching filter = right.matching filter) :
    (TupleRepository.inMemory.reader left).readAll filter =
      (TupleRepository.inMemory.reader right).readAll filter := by
  have start : PageToken.decode "" = .ok 0 := rfl
  have fits : (left.matching filter).length < 0 + ((left.matching filter).length + 1) := by omega
  have agrees : ∀ bound token, (TupleRepository.inMemory.reader left).readFrom filter bound token =
      (TupleRepository.inMemory.reader right).readFrom filter bound token := by
    intro bound token
    induction bound generalizing token with
    | zero => rfl
    | succ bound ih =>
      have page : (TupleRepository.inMemory.reader left).read filter token checkPageSize =
          (TupleRepository.inMemory.reader right).read filter token checkPageSize :=
        read_eq_of_matching_eq same token checkPageSize
      simp only [TupleReader.readFrom, page, ih]
  -- The bounds on the number of pages come from the sizes of the stores, which may differ.
  calc (TupleRepository.inMemory.reader left).readAll filter
      = (TupleRepository.inMemory.reader left).readFrom filter
          ((left.matching filter).length + 1) "" :=
        TupleReader.readFrom_of_enough start fits (Nat.succ_le_succ length_matching_le)
    _ = (TupleRepository.inMemory.reader right).readFrom filter
          ((left.matching filter).length + 1) "" := agrees _ _
    _ = (TupleRepository.inMemory.reader right).readAll filter := by
        rw [same] at fits ⊢
        exact (TupleReader.readFrom_of_enough start fits (Nat.succ_le_succ length_matching_le)).symm

/-- Stores that agree in a namespace cannot be told apart by what is asked in it. -/
theorem AgreeIn.looksLike (named : namespaceName ≠ "") (agree : left.AgreeIn namespaceName right)
    (leftUnrepeated : left.Unrepeated) (rightUnrepeated : right.Unrepeated) :
    left.LooksLike namespaceName right where
  check schema subject goal inside := by
    apply check_congr named ?_ schema subject inside
    refine ⟨fun tuple among => congrArg Except.ok (agree.holds_eq among), ?_⟩
    intro filter among
    exact readAll_eq_of_matching_eq (agree.matching_eq leftUnrepeated rightUnrepeated among)
  read filter pageToken limit inside :=
    read_eq_of_matching_eq (agree.matching_eq leftUnrepeated rightUnrepeated inside) pageToken limit

end Agreement

variable {store : TupleStore} {tuples : List RelationTuple}

/-- A write elsewhere leaves a namespace as it was. -/
theorem agreeIn_write (elsewhere : ∀ tuple ∈ tuples, tuple.namespaceName ≠ namespaceName) :
    (store.write tuples).AgreeIn namespaceName store := by
  intro tuple inside
  constructor
  · intro mem
    rcases mem_or_mem_of_mem_write mem with old | new
    · exact old
    · exact absurd inside (elsewhere tuple new)
  · exact fun mem => tuples_sublist_write.subset mem

/-- A deletion elsewhere leaves a namespace as it was. -/
theorem agreeIn_delete (elsewhere : ∀ tuple ∈ tuples, tuple.namespaceName ≠ namespaceName) :
    (store.delete tuples).AgreeIn namespaceName store := by
  intro tuple inside
  rw [mem_tuples_delete]
  refine and_iff_left ?_
  intro other mem same
  exact elsewhere other mem ((congrArg TupleKey.namespaceName same).symm.trans inside)

/-- Stores with the same tuples of a named namespace answer alike in it, so nothing that is written
or deleted elsewhere is seen there. -/
theorem namespaces_are_isolated (namespaceName : String) (named : namespaceName ≠ "")
    (store : TupleStore) (reachable : store.Reachable) :
    (∀ other : TupleStore, other.Reachable → other.AgreeIn namespaceName store →
      other.LooksLike namespaceName store) ∧
    ∀ tuples : List RelationTuple, (∀ tuple ∈ tuples, tuple.namespaceName ≠ namespaceName) →
      (store.write tuples).LooksLike namespaceName store ∧
        (store.delete tuples).LooksLike namespaceName store := by
  have isolated : ∀ other : TupleStore, other.Reachable → other.AgreeIn namespaceName store →
      other.LooksLike namespaceName store := fun other reached agree =>
    agree.looksLike named reached.unrepeated reachable.unrepeated
  refine ⟨isolated, ?_⟩
  intro tuples elsewhere
  exact ⟨isolated _ (.write reachable tuples) (agreeIn_write elsewhere),
    isolated _ (.delete reachable tuples) (agreeIn_delete elsewhere)⟩

/-- In the west, bob views a group as a member of the team. -/
def westernTeam : TupleStore :=
  TupleStore.empty.write [
    ⟨"west", groupType, "team", memberRelation, userType, .id "bob"⟩,
    ⟨"west", groupType, "g", viewerRelation, groupType, .set ⟨groupType, "team", memberRelation⟩⟩]

/-- The same in the west, written in another order, and another team in the east. -/
def teamsOfBothSides : TupleStore :=
  TupleStore.empty.write [
    ⟨"east", groupType, "team", memberRelation, userType, .id "carol"⟩,
    ⟨"west", groupType, "g", viewerRelation, groupType, .set ⟨groupType, "team", memberRelation⟩⟩,
    ⟨"east", groupType, "g", viewerRelation, groupType, .set ⟨groupType, "team", memberRelation⟩⟩,
    ⟨"west", groupType, "team", memberRelation, userType, .id "bob"⟩]

/-- A team in the west is the same with and without the eastern grants beside it. -/
theorem namespaces_are_isolated_westernTeam :
    ("west" ≠ "" ∧ westernTeam.Reachable ∧ teamsOfBothSides.AgreeIn "west" westernTeam) ∧
      teamsOfBothSides.LooksLike "west" westernTeam ∧
      (westernTeam.delete [⟨"east", groupType, "team", memberRelation, userType, .id "bob"⟩]).LooksLike
        "west" westernTeam := by
  have reachable : westernTeam.Reachable := .write .empty _
  have agree : teamsOfBothSides.AgreeIn "west" westernTeam := by
    have kept : (teamsOfBothSides.tuples.filter (·.namespaceName = "west")).Perm
        (westernTeam.tuples.filter (·.namespaceName = "west")) := by decide
    intro tuple inside
    simpa [inside] using kept.mem_iff (a := tuple)
  have isolated := namespaces_are_isolated "west" (by decide) westernTeam reachable
  exact ⟨⟨by decide, reachable, agree⟩, isolated.1 _ (.write .empty _) agree,
    (isolated.2 _ (by decide)).2⟩

end TupleStore

end RelationAuth.Policy
