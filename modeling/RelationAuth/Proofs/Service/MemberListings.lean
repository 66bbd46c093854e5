import RelationAuth.Proofs.Service.GroupAuthority
import RelationAuth.Proofs.Service.MemberPolicies

/-!
# Rows and listings of members

The members of a group are kept as rows and as policies.  Whatever groups are created and whatever
things and channels are assigned and unassigned, a group is listed with none but its members.  With
all of them it is listed as long as no assignment finds the policy of a new member granted already,
and no member is unassigned that stands in the group under the other kind too.

One lemma tells for each call when the rows have their policies after it, if they had them before.
The rest is an induction on the run.
-/

namespace RelationAuth.Service

open Groups Identity Policy

/-- A call that creates a group, or assigns or unassigns things or channels. -/
inductive MembershipCall where
  | create (draft : GroupDraft)
  | assign (groupId relation : String) (resource : Resource) (memberIds : List String)
  | unassign (groupId relation : String) (resource : Resource) (memberIds : List String)

namespace MembershipCall

/-- What a call does to the stores in memory. -/
def run (numbered : Nat → String) (config : TokenConfig) (now : Instant) (token : String) :
    MembershipCall → Action (Stores TupleStore) ServiceError Unit
  | create draft => (GroupCall.create draft).run (inMemoryServices numbered config) now token
  | assign groupId relation resource memberIds =>
    (GroupCall.assign groupId relation resource.kind memberIds).run
      (inMemoryServices numbered config) now token
  | unassign groupId relation resource memberIds =>
    (GroupCall.unassign groupId relation resource.kind memberIds).run
      (inMemoryServices numbered config) now token

/-- Whether a call leaves a member without its policy: an assignment that finds the policy of a new
member granted, or the end of a membership that shares its policy with one of the other kind. -/
def Shadows (stores : Stores TupleStore) : MembershipCall → Prop
  | create _ => False
  | assign groupId _ resource memberIds =>
    ∃ memberId ∈ memberIds, memberId ∉ stores.groups.memberIds groupId resource.kind ∧
      stores.policies.satisfies .groupsSchema (resource.tuple groupId memberId) = true
  | unassign groupId _ resource memberIds =>
    ∃ memberId ∈ memberIds, memberId ∈ stores.groups.memberIds groupId resource.other.kind

/-- Whether a call names a member that stands in the group under the other kind. -/
def Mixes (stores : Stores TupleStore) : MembershipCall → Prop
  | create _ => False
  | assign groupId _ resource memberIds | unassign groupId _ resource memberIds =>
    ∃ memberId ∈ memberIds, memberId ∈ stores.groups.memberIds groupId resource.other.kind

end MembershipCall

/-- The stores that calls reach from stores without policies and groups, and for each call the stores
in which it was made.  All calls are answered, and the policies stay as many as a memory holds. -/
inductive MembershipRun (numbered : Nat → String) (config : TokenConfig) :
    List (Stores TupleStore × MembershipCall) → Stores TupleStore → Prop where
  | start (keys : KeyStore) (ids : IdSource) :
      MembershipRun numbered config []
        { policies := TupleStore.empty, keys, groups := GroupStore.empty, ids }
  | call {passed : List (Stores TupleStore × MembershipCall)} {stores after : Stores TupleStore}
      (before : MembershipRun numbered config passed stores) (now : Instant) (token : String)
      (call : MembershipCall)
      (answered : (call.run numbered config now token).perform stores = (.ok (), after))
      (addressable : after.policies.Addressable) :
      MembershipRun numbered config (passed ++ [(stores, call)]) after

variable {numbered : Nat → String} {config : TokenConfig} {now : Instant} {token : String}
  {stores after : Stores TupleStore} {passed : List (Stores TupleStore × MembershipCall)}

/-! ### One call -/

/-- The policies of a new group are about an id that is not empty, and none of them is that of a
member. -/
theorem of_creationPolicies {owner id : String} {parent : Option String}
    {tuples : List RelationTuple}
    (described : (creationPolicies owner parent id).mapM RelationTuple.ofRequest = .ok tuples) :
    id ≠ "" ∧ ∀ tuple ∈ tuples, tuple.relation ≠ groupRelation := by
  rcases RelationTuple.of_mapM_eq_ok described with ⟨all, only⟩
  constructor
  · rcases all (administratorPolicy owner id) List.mem_cons_self with ⟨_, _, valid⟩
    have unfaulty := (PolicyRequest.validateWrite_eq_ok_iff.mp
      (RelationTuple.ofRequest_eq_ok_iff.mp valid).1).1
    exact (PolicyRequest.commonFault?_eq_none_iff.mp unfaulty).2.2
  · intro tuple mem
    rcases only tuple mem with ⟨request, requested, valid⟩
    rw [(RelationTuple.ofRequest_eq_ok_iff.mp valid).2]
    rcases List.mem_cons.mp requested with rfl | bound
    · exact (by decide : administratorRelation ≠ groupRelation)
    · simp only [Option.mem_toList, Option.map_eq_some_iff] at bound
      rcases bound with ⟨parentId, _, rfl⟩
      exact (by decide : parentGroupRelation ≠ groupRelation)

/-- A new group has no members, and its policies bind none. -/
theorem create_step {draft : GroupDraft} (backed : Backed stores.policies stores.groups)
    (addressable : stores.policies.Addressable)
    (answered : ((MembershipCall.create draft).run numbered config now token).perform stores =
      (.ok (), after)) :
    Backed after.policies after.groups ∧
      (Bound stores.policies stores.groups → Bound after.policies after.groups) := by
  rcases Action.perform_bind_eq_ok_iff.mp answered with ⟨placed, middle, created, ends⟩
  obtain rfl : middle = after := congrArg Prod.snd ends
  have outcome := createGroup_outcome numbered config now token stores addressable draft
  rw [created] at outcome
  cases outcome with
  | @created key id _ groups tuples parsed allowed given saved valid =>
    rcases of_creationPolicies valid with ⟨named, unrelated⟩
    have found := GroupStore.find?_save saved
    have rows : ∀ groupId kind, groups.memberIds groupId kind =
        stores.groups.memberIds groupId kind := by
      intro groupId kind
      rw [(GroupStore.of_save saved).2.2]
      rfl
    constructor
    · refine backed.write ?_ ?_ ?_ ?_
      · intro other group held
        change groups.groups.find? other = some group at held
        rw [found] at held
        split at held
        · next own => rwa [own, ← GroupStore.id_of_save saved]
        · exact backed.named other group held
      · intro groupId kind memberId row
        change memberId ∈ groups.memberIds groupId kind at row
        change ∃ group, groups.groups.find? groupId = some group
        rw [rows] at row
        rw [found]
        split
        · exact ⟨placed, rfl⟩
        · exact backed.owned groupId kind memberId row
      · intro groupId kind memberId row
        exact (rows groupId kind).symm ▸ row
      · intro tuple mem related
        exact absurd related (unrelated tuple (LocalAgent.mem_of_mem_pending mem))
    · intro bound resource groupId memberId row
      change memberId ∈ groups.memberIds groupId resource.kind at row
      rw [rows] at row
      exact TupleStore.tuples_sublist_write.subset (bound resource groupId memberId row)

/-- What a call does to the rows and the policies of members.  If the rows had their policies before
it, they have them after it exactly if it does not shadow any. -/
theorem call_step {call : MembershipCall} (backed : Backed stores.policies stores.groups)
    (addressable : stores.policies.Addressable)
    (answered : (call.run numbered config now token).perform stores = (.ok (), after)) :
    Backed after.policies after.groups ∧
      (Bound stores.policies stores.groups →
        (Bound after.policies after.groups ↔ ¬call.Shadows stores)) := by
  cases call with
  | create draft =>
    rcases create_step backed addressable answered with ⟨backedAfter, binds⟩
    exact ⟨backedAfter, fun bound => iff_of_true (binds bound) not_false⟩
  | assign groupId relation resource memberIds =>
    have outcome := assign_outcome numbered config now token stores addressable groupId relation
      resource.kind memberIds
    rw [show ((inMemoryServices numbered config).assign now token groupId relation resource.kind
      memberIds).perform stores = _ from answered] at outcome
    cases outcome with
    | changed parsed allowed changed valid =>
      exact ⟨backed.assign changed valid,
        fun bound => backed.bound_assign_iff addressable bound changed valid⟩
  | unassign groupId relation resource memberIds =>
    have outcome := unassign_outcome numbered config now token stores groupId relation
      resource.kind memberIds
    rw [show ((inMemoryServices numbered config).unassign now token groupId relation resource.kind
      memberIds).perform stores = _ from answered] at outcome
    cases outcome with
    | changed parsed allowed changed valid =>
      exact ⟨backed.unassign changed valid, fun bound => bound_unassign_iff bound changed valid⟩

/-- Among groups that are not named like sets, the calls that shadow members are those that mix
kinds. -/
theorem shadows_iff_mixes {call : MembershipCall} (backed : Backed stores.policies stores.groups)
    (bound : Bound stores.policies stores.groups) (addressable : stores.policies.Addressable)
    (plain : ∀ id group, stores.groups.groups.find? id = some group →
      Subject.parse id = .id id) :
    call.Shadows stores ↔ call.Mixes stores := by
  have principals : ∀ other ∈ stores.policies.tuples, other.relation = groupRelation →
      ∃ name, other.subject = .id name := by
    intro other stored related
    rcases backed.backed other stored related with ⟨resource, groupId, memberId, row, rfl⟩
    rcases backed.owned groupId resource.kind memberId row with ⟨group, found⟩
    exact ⟨groupId, plain groupId group found⟩
  cases call with
  | create draft => exact Iff.rfl
  | unassign groupId relation resource memberIds => exact Iff.rfl
  | assign groupId relation resource memberIds =>
    refine exists_congr fun memberId => and_congr_right fun _ => ?_
    rw [Resource.satisfies_iff_stores addressable principals]
    constructor
    · rintro ⟨new, tuple, stored, same⟩
      have related : tuple.relation = groupRelation := congrArg TupleKey.relation same
      rcases backed.backed tuple stored related with ⟨another, otherId, otherMember, row, rfl⟩
      rcases Resource.key_tuple_eq_iff.mp same with ⟨rfl, rfl⟩
      rcases Resource.eq_or_eq_other resource another with rfl | rfl
      · exact absurd row new
      · exact row
    · intro row
      exact ⟨backed.not_mem_other bound row, _, bound _ _ _ row,
        Resource.key_tuple_eq_iff.mpr ⟨rfl, rfl⟩⟩

/-! ### Runs -/

/-- The stores that a run passed through and those that it reached. -/
def visited (passed : List (Stores TupleStore × MembershipCall)) (stores : Stores TupleStore) :
    List (Stores TupleStore) :=
  passed.map Prod.fst ++ [stores]

theorem forall_mem_visited {motive : Stores TupleStore → Prop} :
    (∀ state ∈ visited passed stores, motive state) ↔
      (∀ step ∈ passed, motive step.1) ∧ motive stores := by
  rw [visited, List.forall_mem_append, List.forall_mem_map, List.forall_mem_singleton]

namespace MembershipRun

variable (run : MembershipRun numbered config passed stores)

include run

/-- In every state of a run, each tuple of a member has its row. -/
theorem backed : ∀ state ∈ visited passed stores,
    Backed state.policies state.groups ∧ state.policies.Addressable := by
  induction run with
  | start keys ids =>
    have few : TupleStore.empty.Addressable := by decide
    refine forall_mem_visited.mpr ⟨by simp, ⟨?_, ?_, ?_, ?_⟩, few⟩
    · simp [GroupStore.empty]
    · simp [GroupStore.empty, GroupStore.memberIds]
    · simp
    · exact TupleStore.Reachable.empty.unrepeated
  | call before now token call answered addressable ih =>
    rcases forall_mem_visited.mp ih with ⟨earlier, backed, few⟩
    refine forall_mem_visited.mpr ⟨?_, (call_step backed few answered).1, addressable⟩
    rw [List.forall_mem_append, List.forall_mem_singleton]
    exact ⟨earlier, backed, few⟩

/-- Along a run the rows have their policies exactly as long as no call shadows any.  Whether a call
does may be told in other words, if these are right wherever the rows have their policies. -/
theorem bound_iff {tells : Stores TupleStore × MembershipCall → Prop}
    (right : ∀ step ∈ passed, Bound step.1.policies step.1.groups →
      (step.2.Shadows step.1 ↔ tells step)) :
    (∀ state ∈ visited passed stores, Bound state.policies state.groups) ↔
      ∀ step ∈ passed, ¬tells step := by
  induction run with
  | start keys ids =>
    rw [forall_mem_visited]
    simp [Bound, GroupStore.empty, GroupStore.memberIds]
  | @call passed stores after before now token call answered addressable ih =>
    rcases (forall_mem_visited.mp before.backed).2 with ⟨backed, few⟩
    rw [List.forall_mem_append, List.forall_mem_singleton] at right
    replace ih := ih right.1
    rw [forall_mem_visited] at ih ⊢
    rw [List.forall_mem_append, List.forall_mem_append, List.forall_mem_singleton,
      List.forall_mem_singleton, ih]
    -- Where no call before shadows any, the rows have their policies when the last call is made.
    refine and_congr_right fun unshadowed => ?_
    have bound := (ih.mpr unshadowed).2
    exact ((call_step backed few answered).2 bound).trans (not_congr (right.2 bound))

end MembershipRun

/-- Whether each group is listed with none but its members. -/
def ListsOnlyMembers (numbered : Nat → String) (config : TokenConfig)
    (stores : Stores TupleStore) : Prop :=
  ∀ id group, stores.groups.groups.find? id = some group → ∀ resource : Resource,
    ∃ page, ((inMemoryServices numbered config).listAllObjects (resource.listing id)).perform
        stores = (.ok page, stores) ∧
      ∀ memberId, memberId ∈ page.policies →
        memberId ∈ stores.groups.memberIds id resource.kind

/-- Whether each group is listed with its members. -/
def ListsMembers (numbered : Nat → String) (config : TokenConfig) (stores : Stores TupleStore) :
    Prop :=
  ∀ id group, stores.groups.groups.find? id = some group → ∀ resource : Resource,
    ∃ page, ((inMemoryServices numbered config).listAllObjects (resource.listing id)).perform
        stores = (.ok page, stores) ∧
      ∀ memberId, memberId ∈ page.policies ↔
        memberId ∈ stores.groups.memberIds id resource.kind

theorem listsOnlyMembers (backed : Backed stores.policies stores.groups)
    (addressable : stores.policies.Addressable) : ListsOnlyMembers numbered config stores := by
  intro id group found resource
  rcases perform_listing backed addressable numbered config resource
    (backed.named id group found) with ⟨page, lists, listed⟩
  exact ⟨page, lists, fun memberId mem => backed.mem_memberIds ((listed memberId).mp mem)⟩

/-- A group is listed with its members exactly if the tuple of every row is stored. -/
theorem listsMembers_iff (backed : Backed stores.policies stores.groups)
    (addressable : stores.policies.Addressable) :
    ListsMembers numbered config stores ↔ Bound stores.policies stores.groups := by
  constructor
  · intro complete resource groupId memberId row
    rcases backed.owned groupId resource.kind memberId row with ⟨group, found⟩
    rcases perform_listing backed addressable numbered config resource
      (backed.named groupId group found) with ⟨page, lists, listed⟩
    rcases complete groupId group found resource with ⟨same, listsToo, members⟩
    rw [lists, Prod.mk.injEq, Except.ok.injEq] at listsToo
    rcases listsToo with ⟨rfl, -⟩
    exact (listed memberId).mp ((members memberId).mpr row)
  · intro bound id group found resource
    rcases perform_listing backed addressable numbered config resource
      (backed.named id group found) with ⟨page, lists, listed⟩
    refine ⟨page, lists, fun memberId => (listed memberId).trans ⟨backed.mem_memberIds, ?_⟩⟩
    exact bound resource id memberId

/-- When groups are listed with their members.  Along every run of calls that create groups and
assign and unassign things and channels, each group is listed with none but its members of a kind.
In all stores of the run it is listed with all of them exactly if no call shadows a member.  As long
as no group is named like a set, this means that no call names a member that stands in the group
under the other kind. -/
theorem member_listings_follow_rows (run : MembershipRun numbered config passed stores) :
    (∀ state ∈ visited passed stores, ListsOnlyMembers numbered config state) ∧
      ((∀ state ∈ visited passed stores, ListsMembers numbered config state) ↔
        ∀ step ∈ passed, ¬step.2.Shadows step.1) ∧
      ((∀ state ∈ visited passed stores, ∀ id group,
          state.groups.groups.find? id = some group → Subject.parse id = .id id) →
        ((∀ state ∈ visited passed stores, ListsMembers numbered config state) ↔
          ∀ step ∈ passed, ¬step.2.Mixes step.1)) := by
  have backed := run.backed
  have listed : (∀ state ∈ visited passed stores, ListsMembers numbered config state) ↔
      ∀ state ∈ visited passed stores, Bound state.policies state.groups :=
    forall₂_congr fun state mem => listsMembers_iff (backed state mem).1 (backed state mem).2
  refine ⟨?_, ?_, ?_⟩
  · intro state mem
    exact listsOnlyMembers (backed state mem).1 (backed state mem).2
  · exact listed.trans (run.bound_iff fun _ _ _ => Iff.rfl)
  · intro plain
    refine listed.trans (run.bound_iff fun step mem bound => ?_)
    have among : step.1 ∈ visited passed stores :=
      List.mem_append_left _ (List.mem_map_of_mem mem)
    exact shadows_iff_mixes (backed _ among).1 bound (backed _ among).2 (plain _ among)

/-! ### A thing and a channel of one id -/

/-- The stores after a thing is assigned to the root. -/
def thingStores : Stores TupleStore :=
  { rootStores with
    policies := rootStores.policies.write [Resource.thing.tuple "n" "x"]
    groups := { rootStores.groups with
      members := rootStores.groups.members.insert ("n", thingsKind) ["x"] } }

/-- The stores after a channel of the same id is assigned too. -/
def mixedStores : Stores TupleStore :=
  { thingStores with
    groups := { thingStores.groups with
      members := thingStores.groups.members.insert ("n", channelsKind) ["x"] } }

theorem run_rootStores :
    MembershipRun tally plainConfig
      [({ policies := TupleStore.empty }, .create { name := "root" })] rootStores := by
  have pending : LocalAgent.pending TupleStore.empty .groupsSchema rootTuples = rootTuples := by
    decide +kernel
  have identified := perform_identify_of_access tally plainConfig dawn aliceToken
    { policies := TupleStore.empty } parse_aliceToken rfl
  have created := @perform_createGroup tally plainConfig dawn aliceToken
    { policies := TupleStore.empty } { name := "root" } _ "n" rootGroup rootStores.groups rootTuples
    (by decide) (by decide) identified (by simp) rfl rfl rfl
  rw [pending] at created
  exact .call (.start KeyStore.empty {}) dawn aliceToken (.create { name := "root" })
    (Action.perform_bind_ok created) (by decide)

theorem run_thingStores :
    MembershipRun tally plainConfig
      [({ policies := TupleStore.empty }, .create { name := "root" }),
        (rootStores, .assign "n" "" .thing ["x"])] thingStores := by
  have pending : LocalAgent.pending rootStores.policies .groupsSchema
      [Resource.thing.tuple "n" "x"] = [Resource.thing.tuple "n" "x"] := by
    decide +kernel
  have assigned := @perform_assign tally plainConfig dawn aliceToken rootStores
    _ "n" "" thingsKind ["x"] thingStores.groups [Resource.thing.tuple "n" "x"] (by decide)
    parse_aliceToken rfl rfl rfl rfl
  rw [pending] at assigned
  exact .call run_rootStores dawn aliceToken (.assign "n" "" .thing ["x"]) assigned (by decide)

/-- A thing that is assigned to the root is its only member, and is listed. -/
theorem member_listings_follow_rows_thingStores :
    MembershipRun tally plainConfig
        [({ policies := TupleStore.empty }, .create { name := "root" }),
          (rootStores, .assign "n" "" .thing ["x"])] thingStores ∧
      thingStores.groups.memberIds "n" thingsKind = ["x"] ∧
      ListsMembers tally plainConfig thingStores := by
  refine ⟨run_thingStores, rfl, ?_⟩
  rcases member_listings_follow_rows run_thingStores with ⟨-, -, listed⟩
  have plain : ∀ state ∈ visited
      [(({ policies := TupleStore.empty } : Stores TupleStore),
          MembershipCall.create { name := "root" }),
        (rootStores, .assign "n" "" .thing ["x"])] thingStores, ∀ id group,
        state.groups.groups.find? id = some group → Subject.parse id = .id id := by
    have root : ∀ id group, rootStores.groups.groups.find? id = some group →
        Subject.parse id = .id id := by
      intro id group found
      rw [rootStores, Table.find?_insert] at found
      split at found
      · next own => rw [own, Subject.parse_of_no_colon (by decide)]
      · cases found
    refine forall_mem_visited.mpr ⟨?_, root⟩
    rw [List.forall_mem_cons, List.forall_mem_singleton]
    refine ⟨?_, root⟩
    intro id group found
    cases found
  have unmixed : ∀ step ∈ [(({ policies := TupleStore.empty } : Stores TupleStore),
      MembershipCall.create { name := "root" }), (rootStores, .assign "n" "" .thing ["x"])],
      ¬step.2.Mixes step.1 := by
    have noChannels : rootStores.groups.memberIds "n" channelsKind = [] := rfl
    simp [MembershipCall.Mixes, Resource.other, Resource.kind, noChannels]
  exact (forall_mem_visited.mp ((listed plain).mpr unmixed)).2

/-- A channel is assigned under the id of a thing of the group.  The call is answered and the channel
is a member, but the group is listed with no channels. -/
theorem channel_shadowed_by_thing :
    ∃ passed page, MembershipRun tally plainConfig passed mixedStores ∧
      mixedStores.groups.groups.find? "n" = some rootGroup ∧
      mixedStores.groups.memberIds "n" channelsKind = ["x"] ∧
      ((inMemoryServices tally plainConfig).listAllObjects (Resource.channel.listing "n")).perform
        mixedStores = (.ok page, mixedStores) ∧ page.policies = [] := by
  have pending : LocalAgent.pending thingStores.policies .groupsSchema
      [Resource.channel.tuple "n" "x"] = [] := by
    decide +kernel
  have assigned := @perform_assign tally plainConfig dawn aliceToken thingStores
    _ "n" "" channelsKind ["x"] mixedStores.groups [Resource.channel.tuple "n" "x"] (by decide)
    parse_aliceToken rfl rfl rfl rfl
  rw [pending] at assigned
  have run : MembershipRun tally plainConfig _ mixedStores :=
    .call run_thingStores dawn aliceToken (.assign "n" "" .channel ["x"]) assigned (by decide)
  rcases (forall_mem_visited.mp run.backed).2 with ⟨backed, addressable⟩
  rcases perform_listing backed addressable tally plainConfig .channel (by decide : "n" ≠ "") with
    ⟨page, lists, listed⟩
  have noChannel : ∀ tuple ∈ mixedStores.policies.tuples, tuple.objectType ≠ channelType := by
    decide
  refine ⟨_, page, run, rfl, rfl, lists, ?_⟩
  rw [List.eq_nil_iff_forall_not_mem]
  intro memberId mem
  exact noChannel _ ((listed memberId).mp mem) rfl

end RelationAuth.Service
