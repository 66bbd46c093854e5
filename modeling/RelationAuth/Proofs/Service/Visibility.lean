import RelationAuth.Proofs.Groups.Listings
import RelationAuth.Proofs.Service.GroupAuthority

/-!
# What listings show of hidden groups

A user cannot tell two stores of groups apart that hold the same records of the groups that the user
may see, whatever else they hold and in whatever order the checks of a listing end.

A listing keeps the candidates that the policies let the user see.  First it is shown that each check
answers what the policies say, then that the candidates of both stores agree after this choice.  A
group that the user may not see is refused before anything of the stored groups is read.
-/

namespace RelationAuth.Service

open Groups Identity Policy

/-- The services in memory, with checks that end in some order. -/
def inMemoryEnding (numbered : Nat → String) (config : TokenConfig) (completion : Completion) :
    Services (Stores TupleStore) :=
  { inMemoryServices numbered config with completion }

/-- Whether the policies of some stores let a user do something on a group. -/
def Stores.permits (stores : Stores TupleStore) (user permission groupId : String) : Bool :=
  (stores.policies.searchGoals .groupsSchema (groupCheck user permission groupId).subjectRef
    (groupGoal permission groupId)).1

/-- Whether a user who may see a group finds the same record of it, or none, in two stores. -/
def Stores.ShowsAlike (stores : Stores TupleStore) (user : String) (left right : GroupStore) :
    Prop :=
  ∀ id group, stores.Allows user viewPermission id →
    (left.groups.find? id = some group ↔ right.groups.find? id = some group)

/-- Whether the groups of a store form a hierarchy, under ids that are not empty, and are as many as
a memory holds. -/
structure Orderly (groups : GroupStore) : Prop where
  hierarchy : groups.Hierarchy
  named : ∀ id group, groups.groups.find? id = some group → id ≠ ""
  addressable : groups.Addressable

/-- Whether two answers are the same cause to stop, or the same groups in some order. -/
inductive SameGroups : Except (Stop ServiceError) (List Group) →
    Except (Stop ServiceError) (List Group) → Prop where
  | stopped (stop : Stop ServiceError) : SameGroups (.error stop) (.error stop)
  | shown {left right : List Group} (perm : left.Perm right) : SameGroups (.ok left) (.ok right)

/-- Whether the listings that a token is shown by two services on their stores are alike. -/
structure ListsAlike (now : Instant) (token : String) (first second : Services (Stores TupleStore))
    (left right : Stores TupleStore) : Prop where
  groups : ∀ page, ∃ shown, (first.listGroups now token page).perform left = (.ok shown, left) ∧
    (second.listGroups now token page).perform right = (.ok shown, right)
  parents : ∀ id level, SameGroups ((first.listParents now token id level).perform left).1
    ((second.listParents now token id level).perform right).1
  children : ∀ id level, SameGroups ((first.listChildren now token id level).perform left).1
    ((second.listChildren now token id level).perform right).1

/-- Whether all that a token asks to see of a group stops for one cause. -/
structure Withholds (now : Instant) (token id : String) (cause : Stop ServiceError)
    (services : Services (Stores TupleStore)) (stores : Stores TupleStore) : Prop where
  view : (services.viewGroup now token id).perform stores = (.error cause, stores)
  parents : ∀ level, (services.listParents now token id level).perform stores =
    (.error cause, stores)
  children : ∀ level, (services.listChildren now token id level).perform stores =
    (.error cause, stores)
  members : ∀ kind page, (services.members now token id kind page).perform stores =
    (.error cause, stores)

variable {numbered : Nat → String} {config : TokenConfig} {now : Instant} {token : String}
  {stores : Stores TupleStore} {user permission groupId : String} {relations : List String}
  {caller : Principal} {completion : Completion}

/-! ### Checks -/

/-- A check of a listed permission answers whether the policies permit it. -/
theorem check_groupCheck (addressable : stores.policies.Addressable)
    (listed : PermissionSchema.groupsSchema.listedRelations? groupType permission = some relations)
    (userNamed : user ≠ "") (groupNamed : groupId ≠ "") :
    (LocalAgent.inMemory.check (groupCheck user permission groupId)).perform stores.policies =
      (if stores.permits user permission groupId then .ok () else .error (.failure .unauthorized),
        stores.policies) :=
  LocalAgent.perform_check addressable (groupCheck_valid listed userNamed groupNamed)

theorem view_listed : PermissionSchema.groupsSchema.listedRelations? groupType viewPermission =
    some [administratorRelation, editorRelation, viewerRelation, memberRelation] := by
  decide

/-- A group without an id is never seen. -/
theorem ne_empty_of_allows (userNamed : user ≠ "") (allowed : stores.Allows user permission groupId) :
    groupId ≠ "" := by
  rintro rfl
  have faulty : (groupCheck user permission "").validateCheck =
      .error (.malformed .missingObject) := by
    simp [groupCheck, PolicyRequest.validateCheck, PolicyRequest.commonFault?,
      PolicyRequest.hasUntypedRelation, userNamed]
  have asked : LocalAgent.inMemory.check (groupCheck user permission "") =
      Action.query (LocalAgent.answer TupleRepository.inMemory .groupsSchema
        (groupCheck user permission "")) := rfl
  rw [Stores.Allows, asked, Action.perform_query, LocalAgent.answer, faulty] at allowed
  cases allowed

theorem allows_view_iff (addressable : stores.policies.Addressable) (userNamed : user ≠ "")
    (groupNamed : groupId ≠ "") :
    stores.Allows user viewPermission groupId ↔
      stores.permits user viewPermission groupId = true := by
  rw [Stores.Allows, check_groupCheck addressable view_listed userNamed groupNamed]
  cases stores.permits user viewPermission groupId <;> simp

/-- What becomes of the answer of a check whether a group may be seen: a denial hides the group, and
any other failure is passed on. -/
def verdict : Except (Stop PolicyError) Unit → Except (Stop ServiceError) Bool
  | .ok () => .ok true
  | .error (.failure cause) =>
    if (ServiceError.ofPolicy cause).kind = .authorization then .ok false
    else .error (.failure (ServiceError.ofPolicy cause))
  | .error .aborted => .error .aborted
  | .error .unfinished => .error .unfinished

theorem perform_canView_over {α : Type} {agent : PolicyAgent α} {stores : Stores α}
    {group : Group} {outcome : Except (Stop PolicyError) Unit} {policies : α}
    (answer : (agent.check (groupCheck user viewPermission group.id)).perform stores.policies =
      (outcome, policies)) :
    ((servicesOver agent numbered config).canView now user group).perform stores =
      (verdict outcome, stores.withPolicies policies) := by
  rw [Services.canView, Action.perform_bind, Action.perform_attempt, perform_authorize_over, answer]
  rcases outcome with ⟨cause | _ | _⟩ | _
  · simp only [verdict, mapError_error, Stop.map]
    split <;> rfl
  all_goals rfl

theorem perform_canView (addressable : stores.policies.Addressable) (userNamed : user ≠ "")
    {group : Group} (groupNamed : group.id ≠ "") :
    ((inMemoryServices numbered config).canView now user group).perform stores =
      (.ok (stores.permits user viewPermission group.id), stores) := by
  rw [inMemoryServices,
    perform_canView_over (check_groupCheck addressable view_listed userNamed groupNamed)]
  cases stores.permits user viewPermission group.id <;> rfl

/-- The candidates that are shown are those whose checks succeed, in the order in which the checks
end. -/
theorem perform_visible (addressable : stores.policies.Addressable) (userNamed : user ≠ "")
    {candidates : List Group} (named : ∀ group ∈ candidates, group.id ≠ "") :
    ((inMemoryEnding numbered config completion).visible now user candidates).perform
        stores =
      (.ok ((completion.order candidates).filter
        fun group => stores.permits user viewPermission group.id), stores) := by
  have answers : ((completion.order candidates).mapM
      ((inMemoryServices numbered config).canView now user)).perform stores =
        (.ok ((completion.order candidates).map
          fun group => stores.permits user viewPermission group.id), stores) := by
    refine Action.perform_mapM_of_answers fun group mem => ?_
    exact perform_canView addressable userNamed
      (named group ((completion.perm candidates).mem_iff.mp mem))
  refine (Action.perform_bind_ok answers).trans ?_
  exact congrArg (fun shown => (Except.ok shown, stores))
    (@Action.map_fst_filter_zip_map _ _ _ id _)

/-! ### Callers -/

theorem perform_identify_withGroups
    (identified : (((inMemoryServices numbered config).identify now token).perform stores).1 =
      .ok caller) (groups : GroupStore) :
    ((inMemoryServices numbered config).identify now token).perform (stores.withGroups groups) =
      (.ok caller, stores.withGroups groups) := by
  rw [perform_identify] at identified ⊢
  split at identified
  · cases identified
  · cases identified
  · next key parsed => exact Prod.ext identified rfl

/-! ### Listings -/

/-- Whether the groups of a store are kept under their own ids, which are not empty, and are as many
as a memory holds. -/
structure Filed (groups : GroupStore) : Prop where
  keyed : ∀ id group, groups.groups.find? id = some group → group.id = id
  named : ∀ id group, groups.groups.find? id = some group → id ≠ ""
  addressable : groups.Addressable

theorem Orderly.filed {groups : GroupStore} (orderly : Orderly groups) : Filed groups :=
  ⟨orderly.hierarchy.keyed, orderly.named, orderly.addressable⟩

theorem Filed.id_ne_empty {groups : GroupStore} (filed : Filed groups) {id : String}
    {group : Group} (found : groups.groups.find? id = some group) : group.id ≠ "" := by
  rw [filed.keyed id group found]
  exact filed.named id group found

/-- The groups that a user is shown of those that a window's conditions admit. -/
def Stores.shownTo (stores : Stores TupleStore) (user : String) (page : PageRequest) :
    List Group :=
  (stores.groups.groups.values.filter fun group =>
    stores.permits user viewPermission group.id && page.admits group).mergeSort
      GroupStore.createdBefore

/-- A listing shows the caller a page of what he may view, in whatever order the checks end. -/
theorem perform_listGroups (addressable : stores.policies.Addressable)
    (filed : Filed stores.groups)
    (identified : ((inMemoryServices numbered config).identify now token).perform stores =
      (.ok caller, stores)) (callerNamed : caller.id ≠ "") (page : PageRequest) :
    ((inMemoryEnding numbered config completion).listGroups now token page).perform
        stores =
      (.ok (page.page (stores.shownTo caller.id page)), stores) := by
  have listed : (((inMemoryServices numbered config).groups.list
      { page with offset := 0, limit := maxPageLimit }).mapFailure ServiceError.group).perform
        stores =
      (.ok (stores.groups.list { page with offset := 0, limit := maxPageLimit }), stores) := rfl
  have candidates : (stores.groups.list { page with offset := 0, limit := maxPageLimit }).items =
      stores.groups.listing page :=
    stores.groups.items_list filed.addressable page (by decide) (by decide)
  have named : ∀ group ∈ stores.groups.listing page, group.id ≠ "" := by
    intro group mem
    rw [GroupStore.listing, List.mem_mergeSort, List.mem_filter, Table.mem_values_iff] at mem
    rcases mem.1 with ⟨id, found⟩
    exact filed.id_ne_empty found
  have shown : ((inMemoryEnding numbered config completion).visible now caller.id
      (stores.groups.listing page)).perform stores = _ :=
    perform_visible addressable callerNamed named
  refine (Action.perform_bind_ok identified).trans ((Action.perform_bind_ok listed).trans ?_)
  rw [candidates]
  refine (Action.perform_bind_ok shown).trans ?_
  -- The sort puts the groups into their places, in whatever order the checks end.
  have perm : ((stores.groups.groups.values.filter fun group =>
        stores.permits caller.id viewPermission group.id && page.admits group)).Perm
      ((completion.order (stores.groups.listing page)).filter
        fun group => stores.permits caller.id viewPermission group.id) := by
    rw [← List.filter_filter]
    exact ((List.mergeSort_perm _ _).symm.trans (completion.perm _).symm).filter _
  have sorted := GroupStore.mergeSort_createdBefore_eq perm
    ((GroupStore.nodup_ids_of_keyed filed.keyed).sublist (List.filter_sublist.map _))
  rw [Action.perform_pure, Stores.shownTo, sorted]

/-- What is shown of a listing around a group that the caller may see. -/
theorem perform_visibleAround (addressable : stores.policies.Addressable)
    (callerNamed : caller.id ≠ "") {candidates : Except GroupError (List Group)}
    {listing : Action (Stores TupleStore) ServiceError (List Group)}
    (lists : listing.perform stores =
      (candidates.mapError fun cause => .failure (.group cause), stores))
    (named : ∀ listed, candidates = .ok listed → ∀ group ∈ listed, group.id ≠ "")
    (authorized : ((inMemoryServices numbered config).authorizeOnGroup now token viewPermission
      groupId).perform stores = (.ok caller, stores)) :
    ((inMemoryServices numbered config).authorizeOnGroup now token viewPermission groupId >>=
        fun caller => listing >>=
          (inMemoryEnding numbered config completion).visible now caller.id).perform
        stores =
      ((candidates.mapError fun cause => .failure (.group cause)).map fun listed =>
        (completion.order listed).filter fun group =>
          stores.permits caller.id viewPermission group.id, stores) := by
  rw [Action.perform_bind_ok authorized, Action.perform_bind, lists]
  rcases candidates with cause | listed
  · rfl
  · exact perform_visible addressable callerNamed (named listed rfl)

/-- The parents are shown in the order in which their checks end, but for those that the caller may
not view. -/
theorem perform_listParents (addressable : stores.policies.Addressable)
    (orderly : Orderly stores.groups) (callerNamed : caller.id ≠ "")
    (authorized : ((inMemoryServices numbered config).authorizeOnGroup now token viewPermission
      groupId).perform stores = (.ok caller, stores)) (level : Nat) :
    ((inMemoryEnding numbered config completion).listParents now token groupId level).perform
        stores =
      (((stores.groups.parents groupId level).mapError fun cause => .failure (.group cause)).map
        fun listed => (completion.order listed).filter fun group =>
          stores.permits caller.id viewPermission group.id, stores) := by
  refine perform_visibleAround addressable callerNamed
    (perform_groups_query stores fun groups => groups.parents groupId level) ?_ authorized
  intro listed lists group mem
  rcases GroupStore.parents_eq_ok_iff.mp lists with ⟨_, _, _, rfl⟩
  rcases List.mem_filterMap.mp mem with ⟨id, _, found⟩
  exact orderly.filed.id_ne_empty found

/-- The children are shown in the order in which their checks end, but for those that the caller may
not view. -/
theorem perform_listChildren (addressable : stores.policies.Addressable)
    (orderly : Orderly stores.groups) (callerNamed : caller.id ≠ "")
    (authorized : ((inMemoryServices numbered config).authorizeOnGroup now token viewPermission
      groupId).perform stores = (.ok caller, stores)) (level : Nat) :
    ((inMemoryEnding numbered config completion).listChildren now token groupId level).perform
        stores =
      (((stores.groups.children groupId level).mapError fun cause => .failure (.group cause)).map
        fun listed => (completion.order listed).filter fun group =>
          stores.permits caller.id viewPermission group.id, stores) := by
  refine perform_visibleAround addressable callerNamed
    (perform_groups_query stores fun groups => groups.children groupId level) ?_ authorized
  intro listed lists group mem
  rcases GroupStore.of_children lists with ⟨_, _, members⟩
  rcases ((members group).mp mem).1 with ⟨id, found⟩
  exact orderly.filed.id_ne_empty found

/-! ### Two stores -/

section TwoStores

variable {left right : GroupStore} (addressable : stores.policies.Addressable)
  (userNamed : user ≠ "") (leftOrderly : Orderly left) (rightOrderly : Orderly right)
  (alike : stores.ShowsAlike user left right)

include addressable userNamed leftOrderly rightOrderly alike

/-- Stores that show a user the same groups hold the same group under every id that he may view. -/
theorem find?_iff_of_permits {id : String} {group : Group}
    (shown : stores.permits user viewPermission id) :
    left.groups.find? id = some group ↔ right.groups.find? id = some group := by
  by_cases named : id = ""
  · subst named
    constructor
    · intro found
      exact absurd rfl (leftOrderly.named "" group found)
    · intro found
      exact absurd rfl (rightOrderly.named "" group found)
  · exact alike id group ((allows_view_iff addressable userNamed named).mpr shown)

/-- Both stores hold the same of the groups that the user sees. -/
theorem filter_values_perm {test : Group → Bool}
    (shown : ∀ group, test group → stores.permits user viewPermission group.id) :
    (left.groups.values.filter test).Perm (right.groups.values.filter test) := by
  have leftNodup := leftOrderly.hierarchy.nodup_ids.of_map
  have rightNodup := rightOrderly.hierarchy.nodup_ids.of_map
  rw [List.perm_ext_iff_of_nodup (leftNodup.filter test) (rightNodup.filter test)]
  intro group
  rw [List.mem_filter, List.mem_filter, leftOrderly.hierarchy.mem_values_iff,
    rightOrderly.hierarchy.mem_values_iff]
  exact and_congr_left fun passes => find?_iff_of_permits addressable userNamed leftOrderly
    rightOrderly alike (shown group passes)

/-- Stores that show a user the same groups show him the same pages. -/
theorem shownTo_eq (page : PageRequest) :
    (stores.withGroups left).shownTo user page = (stores.withGroups right).shownTo user page := by
  refine GroupStore.mergeSort_createdBefore_eq ?_
    (leftOrderly.hierarchy.nodup_ids.sublist (List.filter_sublist.map _))
  refine filter_values_perm addressable userNamed leftOrderly rightOrderly alike ?_
  intro group passes
  rw [Bool.and_eq_true] at passes
  exact passes.1

theorem filter_filterMap_find?_eq (ids : List String) :
    (ids.filterMap left.groups.find?).filter
        (fun group => stores.permits user viewPermission group.id) =
      (ids.filterMap right.groups.find?).filter
        fun group => stores.permits user viewPermission group.id := by
  rw [List.filter_filterMap, List.filter_filterMap]
  refine List.filterMap_congr fun id _ => Option.ext fun group => ?_
  rw [Option.filter_eq_some_iff, Option.filter_eq_some_iff]
  constructor
  · rintro ⟨found, shown⟩
    have own := leftOrderly.hierarchy.keyed id group found
    exact ⟨(find?_iff_of_permits addressable userNamed leftOrderly rightOrderly alike
      (own ▸ shown)).mp found, shown⟩
  · rintro ⟨found, shown⟩
    have own := rightOrderly.hierarchy.keyed id group found
    exact ⟨(find?_iff_of_permits addressable userNamed leftOrderly rightOrderly alike
      (own ▸ shown)).mpr found, shown⟩

/-- Listings around a group that the user sees are shown alike if they agree on what the user sees of
them. -/
theorem sameGroups_around (first second : Completion) {level : Nat}
    {leftList rightList : Group → List Group}
    (visible : stores.permits user viewPermission groupId)
    (agree : ∀ target,
      ((leftList target).filter fun group => stores.permits user viewPermission group.id).Perm
        ((rightList target).filter fun group => stores.permits user viewPermission group.id)) :
    SameGroups
      (((do
          checkLevel level
          let group ← left.retrieve groupId
          return leftList group).mapError fun cause => Stop.failure (ServiceError.group cause)).map
        fun listed => (first.order listed).filter fun group =>
          stores.permits user viewPermission group.id)
      (((do
          checkLevel level
          let group ← right.retrieve groupId
          return rightList group).mapError fun cause => Stop.failure (ServiceError.group cause)).map
        fun listed => (second.order listed).filter fun group =>
          stores.permits user viewPermission group.id) := by
  have same : right.retrieve groupId = left.retrieve groupId := by
    have found : right.groups.find? groupId = left.groups.find? groupId :=
      Option.ext fun group => (find?_iff_of_permits addressable userNamed leftOrderly rightOrderly
        alike visible).symm
    rw [GroupStore.retrieve, GroupStore.retrieve, found]
  rw [same]
  rcases checkLevel level with cause | _
  · exact .stopped _
  rcases left.retrieve groupId with cause | target
  · exact .stopped _
  · refine .shown ?_
    exact (((first.perm _).filter _).trans (agree target)).trans ((second.perm _).filter _).symm

end TwoStores

/-! ### One caller -/

/-- Whoever may not view a group is stopped at the authorization, for one cause. -/
theorem withholds_of_refused {cause : Stop ServiceError}
    (refused : ((inMemoryServices numbered config).authorizeOnGroup now token viewPermission
      groupId).perform stores = (.error cause, stores)) (completion : Completion) :
    Withholds now token groupId cause (inMemoryEnding numbered config completion) stores := by
  have stops : ∀ {α : Type} (next : Principal → Action (Stores TupleStore) ServiceError α),
      ((inMemoryServices numbered config).authorizeOnGroup now token viewPermission groupId >>=
        next).perform stores = (.error cause, stores) := by
    intro α next
    exact Action.perform_bind_error refused
  exact ⟨stops _, fun _ => stops _, fun _ => stops _, fun _ _ => stops _⟩

section OneCaller

variable (addressable : stores.policies.Addressable)
  (identified : (((inMemoryServices numbered config).identify now token).perform stores).1 =
    .ok caller)

include identified

theorem perform_authorizeOnGroup_of_allows (allowed : stores.Allows caller.id permission groupId)
    (groups : GroupStore) :
    ((inMemoryServices numbered config).authorizeOnGroup now token permission groupId).perform
      (stores.withGroups groups) = (.ok caller, stores.withGroups groups) := by
  have asked : ((LocalAgent.inMemory.check (groupCheck caller.id permission groupId)).perform
      (stores.withGroups groups).policies).1 = .ok () := allowed
  rw [perform_authorizeOnGroup _ _ _ _ _ (perform_identify_withGroups identified groups), asked]
  rfl

variable (callerNamed : caller.id ≠ "")

include addressable callerNamed

/-- A group that the caller may not see is withheld for a cause that the policies alone determine. -/
theorem exists_withholds (forbidden : ¬stores.Allows caller.id viewPermission groupId) :
    ∃ cause, (groupId ≠ "" → cause = .failure (.authorization .unauthorized)) ∧
      ∀ (groups : GroupStore) (completion : Completion),
        Withholds now token groupId cause (inMemoryEnding numbered config completion)
          (stores.withGroups groups) := by
  rcases answer : ((LocalAgent.inMemory.check (groupCheck caller.id viewPermission
    groupId)).perform stores.policies).1 with stop | _
  · refine ⟨stop.map ServiceError.ofPolicy, ?_, ?_⟩
    · intro groupNamed
      rw [check_groupCheck addressable view_listed callerNamed groupNamed] at answer
      cases granted : stores.permits caller.id viewPermission groupId <;> simp [granted] at answer
      rw [← answer]
      rfl
    · intro groups completion
      apply withholds_of_refused
      have asked : ((LocalAgent.inMemory.check (groupCheck caller.id viewPermission
          groupId)).perform (stores.withGroups groups).policies).1 = .error stop := answer
      rw [perform_authorizeOnGroup _ _ _ _ _ (perform_identify_withGroups identified groups), asked]
      rfl
  · exact absurd answer forbidden

/-- Whoever is shown the same groups by two stores is given the same listings by both. -/
theorem listsAlike_of_showsAlike {left right : GroupStore} (leftOrderly : Orderly left)
    (rightOrderly : Orderly right) (alike : stores.ShowsAlike caller.id left right)
    (first second : Completion) :
    ListsAlike now token (inMemoryEnding numbered config first)
      (inMemoryEnding numbered config second) (stores.withGroups left)
      (stores.withGroups right) := by
  have identifies := perform_identify_withGroups identified
  have addressableWith : ∀ groups, (stores.withGroups groups).policies.Addressable :=
    fun _ => addressable
  have seen : ∀ {id}, stores.Allows caller.id viewPermission id →
      stores.permits caller.id viewPermission id = true := by
    intro id allowed
    exact (allows_view_iff addressable callerNamed
      (ne_empty_of_allows callerNamed allowed)).mp allowed
  refine ⟨?_, ?_, ?_⟩
  · intro page
    refine ⟨_, perform_listGroups (addressableWith left) leftOrderly.filed (identifies left)
      callerNamed page, ?_⟩
    rw [shownTo_eq addressable callerNamed leftOrderly rightOrderly alike page]
    exact perform_listGroups (addressableWith right) rightOrderly.filed (identifies right)
      callerNamed page
  · intro id level
    by_cases allowed : stores.Allows caller.id viewPermission id
    · have authorizes := perform_authorizeOnGroup_of_allows identified allowed
      rw [perform_listParents (addressableWith left) leftOrderly callerNamed (authorizes left),
        perform_listParents (addressableWith right) rightOrderly callerNamed (authorizes right)]
      refine sameGroups_around addressable callerNamed leftOrderly rightOrderly alike first second
        (seen allowed) fun target => ?_
      exact .of_eq (filter_filterMap_find?_eq addressable callerNamed leftOrderly rightOrderly
        alike _)
    · rcases exists_withholds addressable identified callerNamed allowed with ⟨cause, -, withholds⟩
      rw [(withholds left first).parents, (withholds right second).parents]
      exact .stopped cause
  · intro id level
    by_cases allowed : stores.Allows caller.id viewPermission id
    · have authorizes := perform_authorizeOnGroup_of_allows identified allowed
      rw [perform_listChildren (addressableWith left) leftOrderly callerNamed (authorizes left),
        perform_listChildren (addressableWith right) rightOrderly callerNamed (authorizes right)]
      refine sameGroups_around addressable callerNamed leftOrderly rightOrderly alike first second
        (seen allowed) fun target => ?_
      -- Below the group, the sort only changes the order of what is shown.
      refine (((List.mergeSort_perm _ _).filter _).trans ?_).trans
        ((List.mergeSort_perm _ _).symm.filter _)
      rw [List.filter_filter, List.filter_filter]
      refine filter_values_perm addressable callerNamed leftOrderly rightOrderly alike ?_
      intro group passes
      rw [Bool.and_eq_true] at passes
      exact passes.1
    · rcases exists_withholds addressable identified callerNamed allowed with ⟨cause, -, withholds⟩
      rw [(withholds left first).children, (withholds right second).children]
      exact .stopped cause

end OneCaller

/-- Nothing tells a caller of groups that the caller may not see.  If two stores of groups hold the
same records of those that the caller may see, their listings show the same page for every window, and
the listings around any group show the same groups or stop for the same cause.  A group that the
caller may not see stops each operation for one cause, which does not depend on the stored groups; as
long as its id is not empty, this is a denial.  All of this holds in whatever order checks end. -/
theorem hidden_groups_stay_hidden (numbered : Nat → String) (config : TokenConfig) (now : Instant)
    (token : String) (stores : Stores TupleStore) (caller : Principal)
    (addressable : stores.policies.Addressable)
    (identified : (((inMemoryServices numbered config).identify now token).perform stores).1 =
      .ok caller) (callerNamed : caller.id ≠ "") :
    (∀ left right : GroupStore, Orderly left → Orderly right →
      stores.ShowsAlike caller.id left right → ∀ first second : Completion,
        ListsAlike now token (inMemoryEnding numbered config first)
          (inMemoryEnding numbered config second) (stores.withGroups left)
          (stores.withGroups right)) ∧
    ∀ id, ¬stores.Allows caller.id viewPermission id → ∃ cause,
      (id ≠ "" → cause = .failure (.authorization .unauthorized)) ∧
      ∀ (groups : GroupStore) (completion : Completion),
        Withholds now token id cause (inMemoryEnding numbered config completion)
          (stores.withGroups groups) := by
  constructor
  · intro left right leftOrderly rightOrderly alike first second
    exact listsAlike_of_showsAlike addressable identified callerNamed leftOrderly rightOrderly alike
      first second
  · intro id forbidden
    exact exists_withholds addressable identified callerNamed forbidden

/-- The groups of reached stores are orderly, as long as they are as many as a memory holds. -/
theorem orderly_of_reached (reached : Reached numbered config stores)
    (few : stores.groups.Addressable) : Orderly stores.groups := by
  rcases reached.mirrored with ⟨mirrored, -⟩
  exact ⟨mirrored.hierarchy, fun id group found => (mirrored.named id group found).1, few⟩

/-- Alice administers the root and sees nothing of the group under it, as long as no policy binds
this to the root. -/
theorem hidden_groups_stay_hidden_rootStores :
    rootStores.policies.Addressable ∧
      (((inMemoryServices tally plainConfig).identify dawn aliceToken).perform rootStores).1 =
        .ok aliceClaims.toKey.principal ∧
      aliceClaims.toKey.principal.id ≠ "" ∧
      Orderly rootStores.groups ∧ Orderly leafStores.groups ∧
      rootStores.ShowsAlike "alice" rootStores.groups leafStores.groups ∧
      rootStores.groups.groups.find? "nn" = none ∧
      leafStores.groups.groups.find? "nn" = some leafGroup ∧
      ListsAlike dawn aliceToken (inMemoryServices tally plainConfig)
        (inMemoryServices tally plainConfig) rootStores
        (rootStores.withGroups leafStores.groups) ∧
      ¬rootStores.Allows "alice" viewPermission "nn" ∧
      ∃ cause, Withholds dawn aliceToken "nn" cause (inMemoryServices tally plainConfig)
          rootStores ∧
        Withholds dawn aliceToken "nn" cause (inMemoryServices tally plainConfig)
          (rootStores.withGroups leafStores.groups) := by
  have addressable : rootStores.policies.Addressable := by decide
  have identified : (((inMemoryServices tally plainConfig).identify dawn aliceToken).perform
      rootStores).1 = .ok aliceClaims.toKey.principal := by
    rw [perform_identify_of_access tally plainConfig dawn aliceToken rootStores parse_aliceToken rfl]
  have callerNamed : aliceClaims.toKey.principal.id ≠ "" := by decide
  have rootOrderly := orderly_of_reached reached_rootStores (by decide)
  have leafOrderly := orderly_of_reached reached_leafStores (by decide)
  have hidden : ¬rootStores.Allows "alice" viewPermission "nn" := by
    rw [allows_view_iff addressable (by decide) (by decide)]
    decide +kernel
  have alike : rootStores.ShowsAlike "alice" rootStores.groups leafStores.groups := by
    intro id group allowed
    have differs : id ≠ "nn" := by
      rintro rfl
      exact hidden allowed
    have same : leafStores.groups.groups.find? id = rootStores.groups.groups.find? id := by
      rw [leafStores, Table.find?_insert, if_neg differs]
    rw [same]
  rcases hidden_groups_stay_hidden tally plainConfig dawn aliceToken rootStores _ addressable
    identified callerNamed with ⟨lists, withholds⟩
  rcases withholds "nn" hidden with ⟨cause, -, withheld⟩
  exact ⟨addressable, identified, callerNamed, rootOrderly, leafOrderly, alike, rfl, rfl,
    lists _ _ rootOrderly leafOrderly alike .inTurn .inTurn, hidden, cause,
    withheld rootStores.groups .inTurn, withheld leafStores.groups .inTurn⟩

end RelationAuth.Service
