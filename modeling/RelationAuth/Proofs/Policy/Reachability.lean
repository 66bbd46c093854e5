import Mathlib.Tactic.Tauto
import RelationAuth.Proofs.Policy.Listing
import RelationAuth.Proofs.Search

/-!
# Checks and reachability

A check over a tuple store walks a graph of goals.  A goal is direct if a stored tuple gives the
subject a relation that grants what the goal asks, and it leads to the goals of the sets that hold
such a relation and, for permissions, to those of its parents.

The walk is a depth-first search of this graph, so it denies nothing that a chain of goals grants
unless chains of distinct goals are longer than its steps, and it grants nothing else.
-/

namespace RelationAuth.Policy

/-- Whether a relation grants a name on objects of a type: the name itself does, and so do the
relations that the schema lists for it. -/
def PermissionSchema.Grants (schema : PermissionSchema) (objectType name relation : String) : Prop :=
  relation = name ∨
    ∃ listed, schema.listedRelations? objectType name = some listed ∧ relation ∈ listed

/-- The relations that grant a name are the name itself and those that the schema lists for it. -/
theorem PermissionSchema.mem_grantingRelations_iff {schema : PermissionSchema}
    {objectType name relation : String} :
    relation ∈ schema.grantingRelations objectType name ↔
      schema.Grants objectType name relation := by
  by_cases same : relation = name
  · simp [grantingRelations, Grants, same]
  · rcases listed : schema.listedRelations? objectType name <;>
      simp [grantingRelations, Grants, same, listed]

namespace Goal

/-- Whether a tuple is on the object of a goal, in the namespace of the goal if it has one. -/
def Concerns (goal : Goal) (tuple : RelationTuple) : Prop :=
  tuple.object = goal.object ∧
    (goal.namespaceName = "" ∨ tuple.namespaceName = goal.namespaceName)

/-- The goal of a set that holds a relation on the object of a goal. -/
def ofSet (goal : Goal) (holders : SubjectSet) : Goal :=
  { namespaceName := goal.namespaceName
    objectType := holders.namespaceName
    object := holders.object
    name := holders.relation }

/-- The goal that asks of a parent what a goal asks. -/
def ofParent (goal : Goal) (parentType parentId : String) : Goal :=
  { namespaceName := goal.namespaceName
    objectType := parentType
    object := parentId
    name := goal.name }

/-- Whether a stored tuple gives a subject what a goal asks. -/
def Direct (store : TupleStore) (schema : PermissionSchema) (subject : Subject) (goal : Goal) :
    Prop :=
  ∃ relation, schema.Grants goal.objectType goal.name relation ∧
    store.Stores {
      namespaceName := goal.namespaceName
      object := goal.object
      relation
      subject }

/-- How one goal leads to another. -/
inductive Step (store : TupleStore) (schema : PermissionSchema) (goal : Goal) : Goal → Prop where
  /-- Whoever belongs to a set that holds a granting relation has what the goal asks. -/
  | throughSet {tuple : RelationTuple} {holders : SubjectSet} (stored : tuple ∈ store.tuples)
      (concerned : goal.Concerns tuple)
      (granting : schema.Grants goal.objectType goal.name tuple.relation)
      (named : tuple.subject = .set holders) : Step store schema goal (goal.ofSet holders)
  /-- Whoever holds a permission on a parent holds it on the object of the goal. -/
  | throughParent {tuple : RelationTuple} {link : ParentLink}
      (permission : schema.isPermission goal.objectType goal.name)
      (inherits : link ∈ schema.parentLinks goal.objectType) (stored : tuple ∈ store.tuples)
      (concerned : goal.Concerns tuple) (linked : tuple.relation = link.relation) :
      Step store schema goal (goal.ofParent link.parentType tuple.subject.bareId)

/-- A chain of goals, each leading to the next. -/
abbrev Chain (store : TupleStore) (schema : PermissionSchema) :
    Goal → List Goal → Goal → Prop :=
  Search.Path (Step store schema)

variable (store : TupleStore) (schema : PermissionSchema)

/-- The goals that a goal leads to through sets, in the order in which the walk follows them. -/
def setGoals (goal : Goal) : List Goal :=
  (schema.grantingRelations goal.objectType goal.name).flatMap fun relation =>
    goal.throughSets (store.matching (goal.holdersFilter relation))

/-- The goals that a goal leads to through parents, in the order in which the walk follows them. -/
def parentGoals (goal : Goal) : List Goal :=
  (schema.parentLinks goal.objectType).flatMap fun link =>
    goal.throughParents link.parentType (store.matching (goal.holdersFilter link.relation))

/-- The goals that a goal leads to, in the order in which the walk follows them. -/
def successors (goal : Goal) : List Goal :=
  goal.setGoals store schema ++
    if schema.isPermission goal.objectType goal.name then goal.parentGoals store schema else []

/-- The test by which the walk finds direct goals. -/
def isDirect (subject : Subject) (goal : Goal) : Bool :=
  (schema.grantingRelations goal.objectType goal.name).any fun relation =>
    store.holds (goal.directTuple subject relation)

variable {store schema} {goal next : Goal} {subject : Subject}

theorem isDirect_iff : goal.isDirect store schema subject ↔ goal.Direct store schema subject := by
  simp only [isDirect, List.any_eq_true, PermissionSchema.mem_grantingRelations_iff,
    TupleStore.holds_iff]
  rfl

theorem mem_matching_holdersFilter_iff {tuple : RelationTuple} {relation : String} :
    tuple ∈ store.matching (goal.holdersFilter relation) ↔
      tuple ∈ store.tuples ∧ goal.Concerns tuple ∧ tuple.relation = relation := by
  rw [TupleStore.mem_matching_iff]
  refine and_congr_right fun _ => ?_
  simp only [holdersFilter, TupleFilter.admitsTuple, Bool.and_eq_true, TupleFilter.admits_none,
    TupleFilter.admits_some_iff, TupleFilter.admits_nonEmpty?_iff, Concerns]
  tauto

/-- The goals by way of sets are those of the sets that a concerned tuple names. -/
theorem mem_setGoals_iff :
    next ∈ goal.setGoals store schema ↔
      ∃ tuple ∈ store.tuples, ∃ holders, goal.Concerns tuple ∧
        schema.Grants goal.objectType goal.name tuple.relation ∧ tuple.subject = .set holders ∧
        goal.ofSet holders = next := by
  simp only [setGoals, List.mem_flatMap, PermissionSchema.mem_grantingRelations_iff, throughSets,
    List.mem_filterMap, mem_matching_holdersFilter_iff, ofSet]
  constructor
  · rintro ⟨_, granting, tuple, ⟨stored, concerned, rfl⟩, leads⟩
    rcases named : tuple.subject with name | holders
    · simp [named] at leads
    · exact ⟨tuple, stored, holders, concerned, granting, named, by simpa [named] using leads⟩
  · rintro ⟨tuple, stored, holders, concerned, granting, named, leads⟩
    exact ⟨_, granting, tuple, ⟨stored, concerned, rfl⟩, by simpa [named] using leads⟩

/-- The goals by way of parents are those of the parents that a concerned tuple links. -/
theorem mem_parentGoals_iff :
    next ∈ goal.parentGoals store schema ↔
      ∃ link ∈ schema.parentLinks goal.objectType, ∃ tuple ∈ store.tuples, goal.Concerns tuple ∧
        tuple.relation = link.relation ∧
        goal.ofParent link.parentType tuple.subject.bareId = next := by
  simp only [parentGoals, List.mem_flatMap, throughParents, List.mem_map,
    mem_matching_holdersFilter_iff, and_assoc]
  rfl

theorem mem_successors_iff : next ∈ goal.successors store schema ↔ Step store schema goal next := by
  simp only [successors, List.mem_append, mem_setGoals_iff]
  constructor
  · rintro (⟨tuple, stored, holders, concerned, granting, named, rfl⟩ | inherited)
    · exact .throughSet stored concerned granting named
    · by_cases permission : schema.isPermission goal.objectType goal.name
      · rw [if_pos permission, mem_parentGoals_iff] at inherited
        rcases inherited with ⟨link, inherits, tuple, stored, concerned, linked, rfl⟩
        exact .throughParent permission inherits stored concerned linked
      · simp [permission] at inherited
  · intro step
    cases step with
    | throughSet stored concerned granting named =>
      exact Or.inl ⟨_, stored, _, concerned, granting, named, rfl⟩
    | throughParent permission inherits stored concerned linked =>
      rw [if_pos permission, mem_parentGoals_iff]
      exact Or.inr ⟨_, inherits, _, stored, concerned, linked, rfl⟩

theorem leads_successors : Search.Leads (Goal.successors store schema) = Step store schema := by
  funext left right
  exact propext mem_successors_iff

end Goal

/-! ### The walk is a search of the graph of goals -/

theorem walkGoals_append {visit : Goal → List Goal → Except PolicyError Walk}
    {early late visited : List Goal} :
    walkGoals visit (early ++ late) visited =
      (walkGoals visit early visited >>= fun answer =>
        if answer.1 then pure (true, answer.2) else walkGoals visit late answer.2) := by
  induction early generalizing visited with
  | nil => rfl
  | cons goal rest ih =>
    simp only [List.cons_append, walkGoals, bind_assoc]
    congr
    funext answer
    rcases answer with ⟨found, seen⟩
    cases found with
    | true => rfl
    | false => exact ih

/-- Sources whose expansion cannot fail are visited as the goals that they expand to. -/
theorem walkSources_ok {α : Type} {expand : α → List Goal}
    {visit : Goal → List Goal → Except PolicyError Walk} {sources : List α} {visited : List Goal} :
    walkSources (fun source => .ok (expand source)) visit sources visited =
      walkGoals visit (sources.flatMap expand) visited := by
  induction sources generalizing visited with
  | nil => rfl
  | cons source rest ih =>
    rw [List.flatMap_cons, walkGoals_append, walkSources]
    simp only [ih]
    rfl

/-- A walk over goals is a search over nodes, if each of its visits is. -/
theorem walkGoals_eq_searchEach {visit : Goal → List Goal → Except PolicyError Walk}
    {search : Goal → Search.Trail Goal → Bool × Search.Trail Goal}
    (same : ∀ goal trail, visit goal trail.visited =
      .ok ((search goal trail).1, (search goal trail).2.visited))
    (goals : List Goal) (trail : Search.Trail Goal) :
    walkGoals visit goals trail.visited =
      .ok ((Search.searchEach search goals trail).1,
        (Search.searchEach search goals trail).2.visited) := by
  induction goals generalizing trail with
  | nil => rfl
  | cons goal rest ih =>
    rcases outcome : search goal trail with ⟨found, after⟩
    have visited := same goal trail
    rw [outcome] at visited
    simp only [walkGoals, visited, bind, Except.bind, Search.searchEach, outcome]
    cases found with
    | true => rfl
    | false => exact ih after

theorem anyDirect_store {store : TupleStore} {subject : Subject} {goal : Goal}
    {relations : List String} :
    anyDirect (TupleRepository.inMemory.reader store) subject goal relations =
      .ok (relations.any fun relation => store.holds (goal.directTuple subject relation)) := by
  induction relations with
  | nil => rfl
  | cons relation rest ih =>
    have look : (TupleRepository.inMemory.reader store).holds (goal.directTuple subject relation) =
        .ok (store.holds (goal.directTuple subject relation)) := rfl
    simp only [anyDirect, look, bind, Except.bind, List.any_cons]
    cases store.holds (goal.directTuple subject relation) with
    | true => rfl
    | false => simpa using ih

/-- The walk over a store is a depth-first search of the graph of goals. -/
theorem walkFrom_store {store : TupleStore} (addressable : store.Addressable)
    (schema : PermissionSchema) (subject : Subject) (levels : Nat) (goal : Goal)
    (trail : Search.Trail Goal) :
    walkFrom (TupleRepository.inMemory.reader store) schema subject levels goal trail.visited =
      .ok ((Search.search (Goal.isDirect store schema subject) (Goal.successors store schema) levels
          goal trail).1,
        (Search.search (Goal.isDirect store schema subject) (Goal.successors store schema) levels
          goal trail).2.visited) := by
  induction levels generalizing goal trail with
  | zero => rfl
  | succ levels ih =>
    by_cases seen : goal ∈ trail.visited
    · simp [walkFrom, Search.search, seen, pure, Except.pure]
    have direct : anyDirect (TupleRepository.inMemory.reader store) subject goal
        (schema.grantingRelations goal.objectType goal.name) =
          .ok (goal.isDirect store schema subject) := anyDirect_store
    by_cases found : goal.isDirect store schema subject
    · simp [walkFrom, Search.search, seen, found, direct, bind, Except.bind, pure, Except.pure,
        Search.Trail.enter]
    -- What the walk reads cannot fail, so sets and parents are visited as one list of goals.
    have below := walkGoals_eq_searchEach ih (goal.successors store schema)
      (trail.enter goal (levels = 0))
    simp only [walkFrom, Search.search, seen, found, direct, if_false, Bool.false_eq_true,
      TupleReader.readAll_store addressable, walkSources_ok, pure, Except.pure, bind,
      Except.bind] at below ⊢
    rw [← below, Goal.successors, walkGoals_append]
    by_cases permission : schema.isPermission goal.objectType goal.name
    · simp only [permission, if_true, Bool.not_true, Bool.false_eq_true, if_false]
      rfl
    · simp only [permission, if_true, Bool.not_false, Bool.false_eq_true, if_false]
      rfl

namespace TupleStore

variable (store : TupleStore) (schema : PermissionSchema) (subject : Subject) (start : Goal)

/-- The search that answers a check. -/
def searchGoals : Bool × Search.Trail Goal :=
  Search.search (Goal.isDirect store schema subject) (Goal.successors store schema)
    (maxCheckSteps + 1) start .start

/-- The goals that the search of a check meets only when its steps are used up. -/
def boundaryGoals : List Goal :=
  (store.searchGoals schema subject start).2.boundary

variable {store schema subject start}

/-- A check on a store of addressable size always answers, and its answer is the search's. -/
theorem check_eq (addressable : store.Addressable) :
    store.check schema subject start = .ok (store.searchGoals schema subject start).1 := by
  have walk := walkFrom_store addressable schema subject (maxCheckSteps + 1) start .start
  simp only [TupleStore.check, Policy.check, Search.Trail.start] at walk ⊢
  rw [walk]
  rfl

/-- What a check grants, a chain of at most as many goals as the check follows leads to. -/
theorem chain_of_check (addressable : store.Addressable)
    (granted : store.check schema subject start = .ok true) :
    ∃ rest last, Goal.Chain store schema start rest last ∧ last.Direct store schema subject ∧
      rest.length ≤ maxCheckSteps := by
  rw [check_eq addressable, Except.ok.injEq] at granted
  rcases Search.path_of_found granted with ⟨rest, last, path, direct, short⟩
  rw [Goal.leads_successors] at path
  exact ⟨rest, last, path, Goal.isDirect_iff.mp direct, short⟩

/-- A check grants exactly what a chain leads to without a boundary goal between its ends. -/
theorem check_iff_chain_off_boundary (addressable : store.Addressable) :
    store.check schema subject start = .ok true ↔
      ∃ rest last, Goal.Chain store schema start rest last ∧ last.Direct store schema subject ∧
        ∀ inner ∈ rest.dropLast, inner ∉ store.boundaryGoals schema subject start := by
  rw [check_eq addressable, Except.ok.injEq]
  refine Search.found_iff_path_off_boundary.trans ?_
  simp only [Goal.leads_successors, Goal.isDirect_iff]
  rfl

/-- A direct goal is found at the first step of a check, before anything is listed. -/
theorem check_of_direct (direct : start.Direct store schema subject) :
    store.check schema subject start = .ok true := by
  have found : anyDirect (TupleRepository.inMemory.reader store) subject start
      (schema.grantingRelations start.objectType start.name) = .ok true := by
    rw [anyDirect_store]
    exact congrArg Except.ok (Goal.isDirect_iff.mpr direct)
  simp [TupleStore.check, Policy.check, walkFrom, found, bind, Except.bind, pure, Except.pure]

/-- A boundary goal of a check is the end of a chain of distinct goals that uses up its steps. -/
theorem chain_to_boundary {goal : Goal} (met : goal ∈ store.boundaryGoals schema subject start) :
    ∃ rest, Goal.Chain store schema start rest goal ∧ rest.length = maxCheckSteps ∧
      (start :: rest).Nodup := by
  rcases Search.path_to_boundary met with ⟨rest, path, length, nodup, _⟩
  rw [Goal.leads_successors] at path
  exact ⟨rest, path, length, nodup⟩

/-- Where chains of distinct goals are no longer than a check follows, it grants whatever a chain
leads to. -/
theorem check_of_shallow (addressable : store.Addressable)
    (shallow : ∀ rest last, Goal.Chain store schema start rest last → (start :: rest).Nodup →
      rest.length ≤ maxCheckSteps)
    {rest : List Goal} {last : Goal} (chain : Goal.Chain store schema start rest last)
    (direct : last.Direct store schema subject) :
    store.check schema subject start = .ok true := by
  rw [check_eq addressable, Except.ok.injEq]
  rw [Goal.Chain, ← Goal.leads_successors] at shallow chain
  exact Search.found_of_shallow shallow chain (Goal.isDirect_iff.mpr direct)

/-- A check always answers.  What it grants, a chain of at most ten steps leads to; where no chain of
distinct goals has more steps, it grants all that a chain of any length leads to. -/
theorem check_sound_and_exact_where_shallow (store : TupleStore) (schema : PermissionSchema)
    (subject : Subject) (start : Goal) (addressable : store.Addressable) :
    ∃ granted, store.check schema subject start = .ok granted ∧
      (granted = true →
        ∃ rest last, Goal.Chain store schema start rest last ∧ last.Direct store schema subject ∧
          rest.length ≤ 10) ∧
      ((∀ rest last, Goal.Chain store schema start rest last → (start :: rest).Nodup →
          rest.length ≤ 10) →
        (∃ rest last, Goal.Chain store schema start rest last ∧
          last.Direct store schema subject) →
        granted = true) := by
  refine ⟨_, check_eq addressable, ?_, ?_⟩
  · intro found
    exact chain_of_check addressable ((check_eq addressable).trans (congrArg _ found))
  · rintro shallow ⟨rest, last, chain, direct⟩
    have granted := check_of_shallow addressable shallow chain direct
    rwa [check_eq addressable, Except.ok.injEq] at granted

/-- Two groups, each the parent of the other, and an administrator of one of them. -/
def mutualParents : TupleStore :=
  TupleStore.empty.write [
    ⟨"", groupType, "left", parentGroupRelation, groupType, .id "right"⟩,
    ⟨"", groupType, "right", parentGroupRelation, groupType, .id "left"⟩,
    ⟨"", groupType, "right", administratorRelation, userType, .id "alice"⟩]

/-- A check among groups that are parents of each other. -/
theorem check_sound_and_exact_mutualParents :
    mutualParents.Addressable ∧
      ∃ granted,
        mutualParents.check .groupsSchema (.id "alice") ⟨"", groupType, "left", viewPermission⟩ =
          .ok granted ∧
        (granted = true →
          ∃ rest last,
            Goal.Chain mutualParents .groupsSchema ⟨"", groupType, "left", viewPermission⟩ rest
              last ∧
            last.Direct mutualParents .groupsSchema (.id "alice") ∧ rest.length ≤ 10) ∧
        ((∀ rest last,
            Goal.Chain mutualParents .groupsSchema ⟨"", groupType, "left", viewPermission⟩ rest
              last →
            (⟨"", groupType, "left", viewPermission⟩ :: rest).Nodup → rest.length ≤ 10) →
          (∃ rest last,
            Goal.Chain mutualParents .groupsSchema ⟨"", groupType, "left", viewPermission⟩ rest
              last ∧
            last.Direct mutualParents .groupsSchema (.id "alice")) →
          granted = true) :=
  have addressable : mutualParents.Addressable := by decide
  ⟨addressable, check_sound_and_exact_where_shallow _ _ _ _ addressable⟩

end TupleStore

end RelationAuth.Policy
