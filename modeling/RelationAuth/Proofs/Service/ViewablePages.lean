import RelationAuth.Policy.ScriptedAgent
import RelationAuth.Proofs.Service.Visibility

/-!
# Pages of the groups that a caller may see

The pages of a listing are windows on one list: the groups that the caller may see, sorted by age
after all checks have ended, so that no schedule shows in it.  A denial keeps a group out of that
list.  A check that fails for another reason does not tell whether the group belongs there, and so
the whole listing fails.
-/

namespace RelationAuth.Service

open Groups Identity Policy

/-! ### What is listed -/

section Listed

variable {numbered : Nat → String} {config : TokenConfig} {now : Instant} {token : String}
  {stores : Stores TupleStore} {caller : Principal}

/-- What is shown to a user is what is stored, admitted by the page and viewable for him. -/
theorem mem_shownTo_iff (filed : Filed stores.groups) {user : String} {page : PageRequest}
    {group : Group} :
    group ∈ stores.shownTo user page ↔
      stores.groups.groups.find? group.id = some group ∧ page.admits group = true ∧
        stores.permits user viewPermission group.id = true := by
  rw [Stores.shownTo, List.mem_mergeSort, List.mem_filter,
    GroupStore.mem_values_iff_of_keyed filed.keyed, Bool.and_eq_true,
    and_comm (a := stores.permits user viewPermission group.id = true)]

/-- No two groups that are shown have one age. -/
theorem shownTo_pairwise (filed : Filed stores.groups) (user : String) (page : PageRequest) :
    (stores.shownTo user page).Pairwise fun early late => early.age < late.age := by
  apply pairwise_mergeSort_rank_lt GroupStore.createdBefore_iff
  apply GroupStore.nodup_ages
  exact (GroupStore.nodup_ids_of_keyed filed.keyed).sublist (List.filter_sublist.map _)

/-- Groups in the strict order of their age are told by which groups they are. -/
theorem eq_of_pairwise_age {left right : List Group}
    (leftSorted : left.Pairwise fun early late => early.age < late.age)
    (rightSorted : right.Pairwise fun early late => early.age < late.age)
    (same : ∀ group, group ∈ left ↔ group ∈ right) : left = right := by
  have distinct {groups : List Group}
      (sorted : groups.Pairwise fun early late => early.age < late.age) : groups.Nodup :=
    sorted.imp fun earlier twice => (twice ▸ earlier).false
  refine ((List.perm_ext_iff_of_nodup (distinct leftSorted) (distinct rightSorted)).mpr
    same).eq_of_pairwise (fun _ _ _ _ earlier later => absurd later earlier.asymm) leftSorted
      rightSorted

/-- A stored group is viewed by those whom the policies let see it. -/
theorem viewGroup_succeeds_iff (addressable : stores.policies.Addressable)
    (filed : Filed stores.groups)
    (identified : ((inMemoryServices numbered config).identify now token).perform stores =
      (.ok caller, stores)) (callerNamed : caller.id ≠ "") {group : Group}
    (stored : stores.groups.groups.find? group.id = some group) :
    (∃ shown, (((inMemoryServices numbered config).viewGroup now token group.id).perform
        stores).1 = .ok shown) ↔
      stores.permits caller.id viewPermission group.id = true := by
  have retrieved : (((inMemoryServices numbered config).groups.retrieve group.id).mapFailure
      ServiceError.group).perform stores = (.ok group, stores) := by
    refine (perform_groups_query stores fun groups => groups.retrieve group.id).trans ?_
    rw [GroupStore.retrieve, stored, mapError_ok]
  have groupNamed := filed.id_ne_empty stored
  rw [Services.viewGroup, Action.perform_bind, perform_authorizeOnGroup _ _ _ _ _ identified,
    check_groupCheck addressable view_listed callerNamed groupNamed]
  cases stores.permits caller.id viewPermission group.id with
  | false =>
    constructor
    · rintro ⟨_, ⟨⟩⟩
    · rintro ⟨⟩
  | true =>
    refine ⟨fun _ => rfl, fun _ => ⟨group, ?_⟩⟩
    exact congrArg Prod.fst retrieved

end Listed

section Concurrent

variable {α : Type} (agent : PolicyAgent α) (numbered : Nat → String) (config : TokenConfig)
  (now : Instant)

/-- What the checks answer whether a user may see some groups, one check after the other. -/
def checksInTurn (user : String) : List Group → α → List (Except (Stop PolicyError) Unit)
  | [], _ => []
  | group :: rest, policies =>
    let (answer, after) := (agent.check (groupCheck user viewPermission group.id)).perform policies
    answer :: checksInTurn user rest after

/-- Whether a check stopped without a denial, so that nothing is known of what it asked. -/
def Inconclusive (stop : Stop PolicyError) : Prop :=
  ∀ cause, stop = .failure cause → (ServiceError.ofPolicy cause).kind ≠ .authorization

variable {agent numbered config now} {user : String} {stores : Stores α}

/-- A grant and a denial tell whether the group is seen, and any other answer is passed on. -/
theorem verdict_cases (outcome : Except (Stop PolicyError) Unit) :
    (∃ seen, verdict outcome = .ok seen ∧ ∀ stop, outcome = .error stop → ¬Inconclusive stop) ∨
      ∃ stop, outcome = .error stop ∧ Inconclusive stop ∧
        verdict outcome = .error (stop.map ServiceError.ofPolicy) := by
  rcases outcome with ⟨cause | _ | _⟩ | _
  · by_cases denied : (ServiceError.ofPolicy cause).kind = .authorization
    · left
      simp [verdict, Inconclusive, denied]
    · right
      simp [verdict, Inconclusive, Stop.map, denied]
  · right
    simp [verdict, Inconclusive, Stop.map]
  · right
    simp [verdict, Inconclusive, Stop.map]
  · left
    exact ⟨true, rfl, by simp⟩

variable (numbered config now) in
/-- If one of the checks is inconclusive, they stop as a whole, and for such a check. -/
theorem mapM_canView_stops {groups : List Group} {stop : Stop PolicyError}
    (among : .error stop ∈ checksInTurn agent user groups stores.policies)
    (inconclusive : Inconclusive stop) :
    ∃ first after, .error first ∈ checksInTurn agent user groups stores.policies ∧
      Inconclusive first ∧
      (groups.mapM ((servicesOver agent numbered config).canView now user)).perform stores =
        (.error (first.map ServiceError.ofPolicy), after) := by
  induction groups generalizing stores with
  | nil => cases among
  | cons group rest ih =>
    rcases answer : (agent.check (groupCheck user viewPermission group.id)).perform
      stores.policies with ⟨outcome, policies⟩
    have answers : checksInTurn agent user (group :: rest) stores.policies =
        outcome :: checksInTurn agent user rest (stores.withPolicies policies).policies := by
      rw [checksInTurn, answer]
      rfl
    rw [answers] at among ⊢
    have views : ((servicesOver agent numbered config).canView now user group).perform stores =
        (verdict outcome, stores.withPolicies policies) := perform_canView_over answer
    rcases verdict_cases outcome with ⟨seen, sees, conclusive⟩ | ⟨first, rfl, unknown, stops⟩
    · -- A check that says something leaves the inconclusive one among the others.
      have others : .error stop ∈ checksInTurn agent user rest
          (stores.withPolicies policies).policies := by
        rcases List.mem_cons.mp among with same | others
        · exact absurd inconclusive (conclusive stop same.symm)
        · exact others
      rcases ih others with ⟨first, after, mem, unknown, rests⟩
      refine ⟨first, after, List.mem_cons_of_mem _ mem, unknown, ?_⟩
      rw [sees] at views
      rw [List.mapM_cons, Action.perform_bind_ok views, Action.perform_bind_error rests]
    · refine ⟨first, stores.withPolicies policies, List.mem_cons_self, unknown, ?_⟩
      rw [stops] at views
      rw [List.mapM_cons, Action.perform_bind_error views]

/-- A listing stops if one of the checks of its candidates is inconclusive. -/
theorem listGroups_stops {completion : Completion} {token : String} {caller : Principal}
    {page : PageRequest} (addressable : stores.groups.Addressable)
    (identified : ((servicesOver agent numbered config).identify now token).perform stores =
      (.ok caller, stores)) {stop : Stop PolicyError}
    (among : .error stop ∈ checksInTurn agent caller.id
      (completion.order (stores.groups.listing page)) stores.policies)
    (inconclusive : Inconclusive stop) :
    ∃ first after, .error first ∈ checksInTurn agent caller.id
        (completion.order (stores.groups.listing page)) stores.policies ∧
      Inconclusive first ∧
      (Services.listGroups { servicesOver agent numbered config with completion } now token
        page).perform stores = (.error (first.map ServiceError.ofPolicy), after) := by
  have listed : (((servicesOver agent numbered config).groups.list
      { page with offset := 0, limit := maxPageLimit }).mapFailure ServiceError.group).perform
        stores =
      (.ok (stores.groups.list { page with offset := 0, limit := maxPageLimit }), stores) := rfl
  have candidates : (stores.groups.list { page with offset := 0, limit := maxPageLimit }).items =
      stores.groups.listing page :=
    stores.groups.items_list addressable page (by decide) (by decide)
  rcases mapM_canView_stops numbered config now among inconclusive with
    ⟨first, after, mem, unknown, stops⟩
  refine ⟨first, after, mem, unknown, ?_⟩
  refine (Action.perform_bind_ok identified).trans ((Action.perform_bind_ok listed).trans ?_)
  rw [candidates]
  exact Action.perform_bind_error (Action.perform_bind_error stops)

end Concurrent

/-- Whether a group is stored that a window's conditions admit and that a token can be used to
view. -/
def Viewable (numbered : Nat → String) (config : TokenConfig) (now : Instant) (token : String)
    (stores : Stores TupleStore) (page : PageRequest) (group : Group) : Prop :=
  stores.groups.groups.find? group.id = some group ∧ page.admits group = true ∧
    ∃ shown, (((inMemoryServices numbered config).viewGroup now token group.id).perform stores).1 =
      .ok shown

/-- Listings show exactly the groups that the caller may see.  The groups that a window's conditions
admit and that the caller views, in the strict order of age, are shown page by page, whatever the
width of the pages and in whatever order the checks behind each page end, and every page counts all
of them.  With any policy agent, a listing for which some check ends neither in a grant nor in a
denial stops for such a check, and shows no page. -/
theorem pages_show_viewable_groups (numbered : Nat → String) (config : TokenConfig)
    (token : String) (caller : Principal) (page : PageRequest) :
    (∀ stores : Stores TupleStore, stores.policies.Addressable → Filed stores.groups →
      caller.id ≠ "" →
      ∃ listing : List Group,
        (listing.Pairwise fun early late => early.age < late.age) ∧
        (∀ now, ((inMemoryServices numbered config).identify now token).perform stores =
            (.ok caller, stores) →
          ∀ group, group ∈ listing ↔ Viewable numbered config now token stores page group) ∧
        ∀ limit, 0 < limit → ∀ (moment : Nat → Instant) (completion : Nat → Completion),
          (∀ number, ((inMemoryServices numbered config).identify (moment number) token).perform
            stores = (.ok caller, stores)) →
          ∃ pages : Nat → Page Group,
            (∀ number,
              ((inMemoryEnding numbered config (completion number)).listGroups (moment number) token
                (page.nth limit number)).perform stores = (.ok (pages number), stores) ∧
              (pages number).total = listing.length) ∧
            ∀ count, listing.length ≤ count * limit →
              (List.range count).flatMap (fun number => (pages number).items) = listing) ∧
    ∀ {α : Type} (agent : PolicyAgent α) (stores : Stores α), stores.groups.Addressable →
      ∀ (now : Instant) (completion : Completion),
        ((servicesOver agent numbered config).identify now token).perform stores =
          (.ok caller, stores) →
        (∃ stop, .error stop ∈ checksInTurn agent caller.id
          (completion.order (stores.groups.listing page)) stores.policies ∧ Inconclusive stop) →
        ∃ stop after, .error stop ∈ checksInTurn agent caller.id
            (completion.order (stores.groups.listing page)) stores.policies ∧
          Inconclusive stop ∧
          (Services.listGroups { servicesOver agent numbered config with completion } now token
            page).perform stores = (.error (stop.map ServiceError.ofPolicy), after) := by
  constructor
  · intro stores addressable filed callerNamed
    refine ⟨stores.shownTo caller.id page, shownTo_pairwise filed caller.id page, ?_, ?_⟩
    · intro now identified group
      rw [mem_shownTo_iff filed, Viewable]
      refine and_congr_right fun stored => and_congr_right fun _ => ?_
      exact (viewGroup_succeeds_iff addressable filed identified callerNamed stored).symm
    · intro limit positive moment completion identified
      refine ⟨fun number => (page.nth limit number).page (stores.shownTo caller.id page), ?_, ?_⟩
      · intro number
        exact ⟨perform_listGroups addressable filed (identified number) callerNamed _, rfl⟩
      · intro count enough
        exact (page.flatMap_window_nth positive _ count).trans (List.take_of_length_le enough)
  · rintro α agent stores addressable now completion identified ⟨stop, among, inconclusive⟩
    exact listGroups_stops addressable identified among inconclusive

/-- Checks that end in the opposite order of that in which they began. -/
def Completion.reversed : Completion where
  order groups := groups.reverse
  perm groups := groups.reverse_perm

/-- Stores with a root whose policy agent cannot be reached for the next check. -/
def unreachableStores : Stores AgentScript :=
  { policies := { checks := [.error .transport] }
    groups := rootStores.groups }

/-- Whether alice is shown some groups under the root on pages of one group each, whose checks end
in the opposite order. -/
def ShowsOneByOne (conditions : PageRequest) (shown : List Group) : Prop :=
  ∃ pages : Nat → Page Group,
    (∀ number, ((inMemoryEnding tally plainConfig .reversed).listGroups dawn aliceToken
        (conditions.nth 1 number)).perform leafStores = (.ok (pages number), leafStores) ∧
      (pages number).total = shown.length) ∧
    (List.range shown.length).flatMap (fun number => (pages number).items) = shown

theorem mem_values_leafStores_iff {group : Group} :
    group ∈ leafStores.groups.groups.values ↔ group = rootGroup ∨ group = leafGroup := by
  have stored : leafStores.groups.groups.values = [rootGroup, leafGroup] := rfl
  rw [stored, List.mem_cons, List.mem_singleton]

/-- Alice is shown the root and the group under it, one after the other, and only the latter where
the name is to contain three letters of its own.  She is not shown the root if its check fails. -/
theorem pages_show_viewable_groups_leafStores :
    ShowsOneByOne {} [rootGroup, leafGroup] ∧
      ShowsOneByOne { name := some "LEA", owner := some "alice" } [leafGroup] ∧
      ∃ stop after, Inconclusive stop ∧
        ((servicesOver ScriptedAgent.agent tally plainConfig).listGroups dawn aliceToken {}).perform
          unreachableStores = (.error (stop.map ServiceError.ofPolicy), after) := by
  have shows (conditions : PageRequest) (shown : List Group)
      (ordered : shown.Pairwise fun early late => early.age < late.age)
      (exactly : ∀ group, group ∈ shown ↔
        (group = rootGroup ∨ group = leafGroup) ∧ conditions.admits group) :
      ShowsOneByOne conditions shown := by
    have identified := perform_identify_of_access tally plainConfig dawn aliceToken leafStores
      parse_aliceToken rfl
    have filed := (orderly_of_reached reached_leafStores (by decide)).filed
    have addressable : leafStores.policies.Addressable := by decide
    have callerNamed : aliceClaims.toKey.principal.id ≠ "" := by decide
    rcases (pages_show_viewable_groups tally plainConfig aliceToken aliceClaims.toKey.principal
      conditions).1 leafStores addressable filed callerNamed with
        ⟨listing, sorted, viewable, paged⟩
    have permitted (group : Group) (stored : group = rootGroup ∨ group = leafGroup) :
        leafStores.permits "alice" viewPermission group.id = true := by
      rcases stored with rfl | rfl <;> decide +kernel
    have same : listing = shown := by
      refine eq_of_pairwise_age sorted ordered fun group => ?_
      rw [viewable dawn identified group, exactly, Viewable,
        ← GroupStore.mem_values_iff_of_keyed filed.keyed, mem_values_leafStores_iff]
      refine and_congr_right fun stored => ?_
      have found : leafStores.groups.groups.find? group.id = some group :=
        (GroupStore.mem_values_iff_of_keyed filed.keyed).mp (mem_values_leafStores_iff.mpr stored)
      rw [viewGroup_succeeds_iff addressable filed identified callerNamed found]
      exact and_iff_left (permitted group stored)
    subst same
    rcases paged 1 Nat.one_pos (fun _ => dawn) (fun _ => .reversed) (fun _ => identified) with
      ⟨pages, page, exhaust⟩
    exact ⟨pages, page, exhaust _ (Nat.mul_one _).ge⟩
  refine ⟨shows _ _ (by decide) fun group => ?_, shows _ _ (by simp) fun group => ?_, ?_⟩
  · simp [PageRequest.admits]
  · have shut : PageRequest.admits { name := some "LEA", owner := some "alice" } rootGroup =
        false := by
      decide +kernel
    have admitted : PageRequest.admits { name := some "LEA", owner := some "alice" } leafGroup := by
      decide +kernel
    rw [List.mem_singleton]
    constructor
    · rintro rfl
      exact ⟨.inr rfl, admitted⟩
    · rintro ⟨rfl | rfl, named⟩
      · exact absurd named (Bool.eq_false_iff.mp shut)
      · rfl
  · have identified : ((servicesOver ScriptedAgent.agent tally plainConfig).identify dawn
        aliceToken).perform unreachableStores =
          (.ok aliceClaims.toKey.principal, unreachableStores) := by
      rw [perform_identify_over, parse_aliceToken]
      rfl
    have candidates : Completion.inTurn.order (unreachableStores.groups.listing {}) =
        [rootGroup] := List.mergeSort_singleton rootGroup
    have failed : .error (.failure .transport) ∈ checksInTurn ScriptedAgent.agent
        aliceClaims.toKey.principal.id
        (Completion.inTurn.order (unreachableStores.groups.listing {}))
        unreachableStores.policies := by
      rw [candidates]
      exact List.mem_singleton_self _
    have inconclusive : Inconclusive (.failure .transport) := by
      rintro cause ⟨⟩
      decide
    rcases (pages_show_viewable_groups tally plainConfig aliceToken aliceClaims.toKey.principal
      {}).2 ScriptedAgent.agent unreachableStores (by decide) dawn .inTurn identified
      ⟨.failure .transport, failed, inconclusive⟩ with ⟨stop, after, -, unknown, stopped⟩
    exact ⟨stop, after, unknown, stopped⟩

end RelationAuth.Service
