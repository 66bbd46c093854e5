import RelationAuth.Proofs.Identity.Token
import RelationAuth.Proofs.Service.GroupRuns

/-!
# Authority over groups

In the stores of ordinary runs the goals that a check of a group permission meets are the same
permission on the group and on the groups above it, one for each level.  So the check follows them
all, and the permission is granted exactly if a role on one of these groups grants it.
-/

namespace RelationAuth.Service

open Groups Identity Policy

/-- The goal of a permission on a group. -/
def groupGoal (permission groupId : String) : Goal :=
  { namespaceName := ""
    objectType := groupType
    object := groupId
    name := permission }

variable {numbered : Nat → String} {config : TokenConfig} {stores : Stores TupleStore}
  {permission child user : String} {relations : List String} {group : Group}

theorem not_listed_of_ordinary :
    ∀ relation ∈ ordinaryRelations,
      PermissionSchema.groupsSchema.listedRelations? groupType relation = none := by
  decide

namespace Mirrored

/-- A user has a permission on a group directly if one of its relations is stored for him. -/
theorem direct_groupGoal_iff (mirrored : Mirrored numbered stores)
    (listed : PermissionSchema.groupsSchema.listedRelations? groupType permission = some relations) :
    (groupGoal permission child).Direct stores.policies .groupsSchema (.id user) ↔
      ∃ relation ∈ relations, stores.policies.Stores ⟨"", child, relation, .id user⟩ := by
  constructor
  · rintro ⟨relation, granting, stored⟩
    refine ⟨relation, ?_, stored⟩
    rcases granting with same | ⟨others, alsoListed, among⟩
    · rcases stored with ⟨tuple, mem, key⟩
      have asserted : tuple.relation = permission :=
        (congrArg TupleKey.relation key).trans same
      have unlisted := not_listed_of_ordinary tuple.relation (mirrored.ordinary tuple mem).2.2
      rw [asserted, listed] at unlisted
      cases unlisted
    · have same : relations = others := Option.some.inj (listed.symm.trans alsoListed)
      rwa [same]
  · rintro ⟨relation, among, stored⟩
    exact ⟨relation, Or.inr ⟨relations, listed, among⟩, stored⟩

/-- From a goal on a group there is one step, to the same goal on the group that it points to. -/
theorem step_groupGoal_iff (mirrored : Mirrored numbered stores)
    (listed : PermissionSchema.groupsSchema.listedRelations? groupType permission = some relations)
    (found : stores.groups.groups.find? child = some group) {next : Goal} :
    Goal.Step stores.policies .groupsSchema (groupGoal permission child) next ↔
      ∃ parentId, stores.groups.PointsTo child parentId ∧ next = groupGoal permission parentId := by
  have inherited : PermissionSchema.groupsSchema.isPermission groupType permission := by
    rw [PermissionSchema.isPermission, listed]
    rfl
  have links : PermissionSchema.groupsSchema.parentLinks groupType =
      [⟨parentGroupRelation, groupType⟩] := by
    decide
  constructor
  · intro step
    cases step with
    | throughSet stored concerned granting named =>
      rcases (mirrored.ordinary _ stored).2.1 with ⟨name, single⟩
      cases single.symm.trans named
    | @throughParent tuple link permitted inherits stored concerned linked =>
      change link ∈ PermissionSchema.groupsSchema.parentLinks groupType at inherits
      rw [links, List.mem_singleton] at inherits
      subst inherits
      rcases mirrored.ordinary tuple stored with ⟨noNamespace, ⟨name, single⟩, _⟩
      have object : tuple.object = child := concerned.1
      have key : tuple.key = parentKey child name := by
        rw [RelationTuple.key, noNamespace, object, linked, single]
        rfl
      refine ⟨name, ⟨group, found, (mirrored.linked child group found name).mp ⟨tuple, stored, key⟩⟩,
        ?_⟩
      rw [single]
      rfl
  · rintro ⟨parentId, ⟨its, foundToo, pointer⟩, rfl⟩
    rcases (mirrored.linked child its foundToo parentId).mpr pointer with ⟨tuple, stored, key⟩
    have object : tuple.object = child := congrArg TupleKey.object key
    have linked : tuple.relation = parentGroupRelation := congrArg TupleKey.relation key
    have single : tuple.subject = .id parentId := congrArg TupleKey.subject key
    have among : ⟨parentGroupRelation, groupType⟩ ∈
        PermissionSchema.groupsSchema.parentLinks groupType := by
      rw [links]
      exact List.mem_singleton_self _
    have step := @Goal.Step.throughParent stores.policies .groupsSchema (groupGoal permission child)
      tuple ⟨parentGroupRelation, groupType⟩ inherited among stored ⟨object, Or.inl rfl⟩ linked
    rwa [single] at step

/-- Every chain from a permission on a group climbs the hierarchy, one level with each goal. -/
theorem climbs (mirrored : Mirrored numbered stores)
    (listed : PermissionSchema.groupsSchema.listedRelations? groupType permission = some relations)
    (found : stores.groups.groups.find? child = some group) {rest : List Goal} {last : Goal}
    (chain : Goal.Chain stores.policies .groupsSchema (groupGoal permission child) rest last) :
    ∃ above ancestor, Relation.ReflTransGen stores.groups.PointsTo child above ∧
      last = groupGoal permission above ∧ stores.groups.groups.find? above = some ancestor ∧
      ancestor.level + rest.length = group.level := by
  generalize start : groupGoal permission child = first at chain
  induction chain generalizing child group with
  | stop goal => exact ⟨child, group, .refl, start.symm, found, rfl⟩
  | follow taken onward ih =>
    subst start
    rcases (mirrored.step_groupGoal_iff listed found).mp taken with ⟨parentId, points, rfl⟩
    rcases mirrored.hierarchy.of_pointsTo points with ⟨same, parent, foundToo, above, below⟩
    obtain rfl : same = group := Option.some.inj (foundToo.symm.trans found)
    rcases ih above rfl with ⟨top, ancestor, climb, ends, stored, levels⟩
    refine ⟨top, ancestor, .head points climb, ends, stored, ?_⟩
    have lower : same.level = parent.level + 1 := congrArg Group.level below
    rw [List.length_cons, lower]
    omega

/-- A climb by pointers is a chain of goals. -/
theorem chain_of_ancestor (mirrored : Mirrored numbered stores)
    (listed : PermissionSchema.groupsSchema.listedRelations? groupType permission = some relations)
    {above : String} (climb : Relation.ReflTransGen stores.groups.PointsTo child above) :
    ∃ rest, Goal.Chain stores.policies .groupsSchema (groupGoal permission child) rest
      (groupGoal permission above) := by
  induction climb using Relation.ReflTransGen.head_induction_on with
  | refl => exact ⟨[], .stop _⟩
  | @head lower parentId points onward ih =>
    rcases ih with ⟨rest, chain⟩
    rcases mirrored.hierarchy.of_pointsTo points with ⟨its, _, found, _, _⟩
    have step : Goal.Step stores.policies .groupsSchema (groupGoal permission lower)
        (groupGoal permission parentId) :=
      (mirrored.step_groupGoal_iff listed found).mpr ⟨parentId, points, rfl⟩
    exact ⟨_ :: rest, .follow step chain⟩

/-- The checker grants a permission on a group exactly if a role on the group, or on one above it,
grants it. -/
theorem check_groupGoal_iff (mirrored : Mirrored numbered stores)
    (addressable : stores.policies.Addressable)
    (listed : PermissionSchema.groupsSchema.listedRelations? groupType permission = some relations)
    (found : stores.groups.groups.find? child = some group) :
    stores.policies.check .groupsSchema (.id user) (groupGoal permission child) = .ok true ↔
      ∃ above, Relation.ReflTransGen stores.groups.PointsTo child above ∧
        ∃ relation ∈ relations, stores.policies.Stores ⟨"", above, relation, .id user⟩ := by
  have shallow : ∀ rest last,
      Goal.Chain stores.policies .groupsSchema (groupGoal permission child) rest last →
        (groupGoal permission child :: rest).Nodup → rest.length ≤ maxCheckSteps := by
    intro rest last chain _
    rcases mirrored.climbs listed found chain with ⟨_, _, _, _, _, levels⟩
    have few : group.level ≤ maxLevel := mirrored.hierarchy.shallow child group found
    have enough : maxLevel ≤ maxCheckSteps := by decide
    omega
  constructor
  · intro granted
    rcases TupleStore.chain_of_check addressable granted with ⟨rest, last, chain, direct, _⟩
    rcases mirrored.climbs listed found chain with ⟨above, _, climb, rfl, _, _⟩
    exact ⟨above, climb, (mirrored.direct_groupGoal_iff listed).mp direct⟩
  · rintro ⟨above, climb, role⟩
    rcases mirrored.chain_of_ancestor listed climb with ⟨rest, chain⟩
    exact TupleStore.check_of_shallow addressable shallow chain
      ((mirrored.direct_groupGoal_iff listed).mpr role)

end Mirrored

/-- A check of a listed permission is valid if it names a user and a group. -/
theorem groupCheck_valid
    (listed : PermissionSchema.groupsSchema.listedRelations? groupType permission = some relations)
    (userNamed : user ≠ "") (groupNamed : child ≠ "") :
    (groupCheck user permission child).validateCheck = .ok () := by
  have named : permission ≠ "" := by
    rintro rfl
    revert listed
    simp [(by decide : PermissionSchema.groupsSchema.listedRelations? groupType "" = none)]
  refine PolicyRequest.validateCheck_eq_ok_iff.mpr ⟨?_, Or.inr named⟩
  exact PolicyRequest.commonFault?_eq_none_iff.mpr ⟨userNamed, rfl, groupNamed⟩

/-- In the stores of ordinary runs a user is authorized for a permission on a group exactly if a
relation that grants it is stored for the user on the group itself or on one of those above it. -/
theorem authorize_iff_role_above (reached : Reached numbered config stores)
    (found : stores.groups.groups.find? child = some group) (principal : PrincipalId user)
    (listed : PermissionSchema.groupsSchema.listedRelations? groupType permission = some relations)
    (now : Instant) :
    (((inMemoryServices numbered config).authorize now (groupCheck user permission child)).perform
        stores).1 = .ok () ↔
      ∃ above, Relation.ReflTransGen stores.groups.PointsTo child above ∧
        ∃ relation ∈ relations, stores.policies.Stores ⟨"", above, relation, .id user⟩ := by
  rcases reached.mirrored with ⟨mirrored, addressable⟩
  have groupNamed : child ≠ "" := (mirrored.named child group found).1
  have valid := groupCheck_valid listed principal.1 groupNamed
  have subject : (groupCheck user permission child).subjectRef = .id user :=
    (PolicyRequest.subjectRef_of_no_relation rfl).trans principal.2
  have goal : (groupCheck user permission child).goal = groupGoal permission child := rfl
  refine Iff.trans ?_ (mirrored.check_groupGoal_iff addressable listed found)
  have answered : (LocalAgent.inMemory.check (groupCheck user permission child)).perform
      stores.policies = _ := LocalAgent.perform_check addressable valid
  rw [subject, goal] at answered
  rw [perform_authorize, answered, TupleStore.check_eq addressable]
  cases (stores.policies.searchGoals .groupsSchema (.id user) (groupGoal permission child)).1 <;>
    simp

/-! ### Two groups, one under the other -/

/-- A text that is as long as a number says. -/
def tally (count : Nat) : String :=
  String.ofList (List.replicate count 'n')

/-- Ids that are numbered by their length are all different, and none of them is read as a set. -/
theorem reliable_tally : ({} : IdSource).Reliable tally := by
  have texts : ∀ position id, ({} : IdSource).given tally position = some id →
      id.toList = List.replicate (position + 1) 'n' := by
    intro position id given
    have same : tally (0 + position + 1) = id := by simpa [IdSource.given] using given
    rw [← same, tally, String.toList_ofList, Nat.zero_add]
  refine ⟨?_, ?_, ?_⟩
  · intro earlier later id first second
    have same := (texts earlier id first).symm.trans (texts later id second)
    have lengths := congrArg List.length same
    simpa using lengths
  · rintro position id given rfl
    have empty := texts position "" given
    simp [List.replicate_succ] at empty
  · intro position id given
    simp [texts position id given, List.mem_replicate]

/-- Settings in which only the secret is given. -/
def plainConfig : TokenConfig :=
  { secret := "secret" }

/-- What the login of a user says. -/
def aliceClaims : Claims :=
  { jti := ""
    iss := plainConfig.issuer
    iat := 0
    sub := ""
    subjectId := "alice"
    keyType := .access
    exp := some 900 }

/-- The token of alice's login. -/
def aliceToken : String :=
  plainConfig.tokenizer.sign aliceClaims

/-- The instant of the login. -/
def dawn : Instant :=
  { seconds := 0, nanos := 0 }

theorem parse_aliceToken :
    plainConfig.tokenizer.parse dawn aliceToken = .ok aliceClaims.toKey := by
  have readBack : (Json.ofOctets? (Utf8.encode aliceClaims.toJson.render)).bind Payload.read? =
      some { claims := aliceClaims, hasAudience := false } := by
    decide +kernel
  rw [aliceToken, Tokenizer.parse_sign _ readBack]
  decide +kernel

/-- A root, and a group under it. -/
def rootGroup : Group :=
  Group.asRoot { id := "n", name := "root", owner := "alice", createdAt := dawn }

/-- The group under the root. -/
def leafGroup : Group :=
  Group.asChildOf { id := "nn", name := "leaf", owner := "alice", createdAt := dawn } rootGroup

/-- The tuples that come with the root. -/
def rootTuples : List RelationTuple :=
  [⟨"", groupType, "n", administratorRelation, userType, .id "alice"⟩]

/-- The tuples that come with the group under the root. -/
def leafTuples : List RelationTuple :=
  [⟨"", groupType, "nn", administratorRelation, userType, .id "alice"⟩,
    ⟨"", groupType, "nn", parentGroupRelation, groupType, .id "n"⟩]

/-- The stores after the root is created. -/
def rootStores : Stores TupleStore :=
  { policies := TupleStore.empty.write rootTuples
    groups := { GroupStore.empty with groups := GroupStore.empty.groups.insert "n" rootGroup }
    ids := { asked := 1 } }

/-- The stores after the group under the root is created too. -/
def leafStores : Stores TupleStore :=
  { policies := rootStores.policies.write leafTuples
    groups := { GroupStore.empty with groups := rootStores.groups.groups.insert "nn" leafGroup }
    ids := { asked := 2 } }

theorem reached_rootStores : Reached tally plainConfig rootStores := by
  have start : Reached tally plainConfig { policies := TupleStore.empty } := .start reliable_tally
  have pending : LocalAgent.pending TupleStore.empty .groupsSchema rootTuples = rootTuples := by
    decide +kernel
  have created := @Reached.create tally plainConfig _ dawn aliceToken "n" { name := "root" } _
    rootGroup rootStores.groups rootTuples start parse_aliceToken rfl ⟨by decide, by decide⟩
    (by decide) (by simp) rfl rfl rfl
  rw [pending] at created
  exact created (by decide)

theorem reached_leafStores : Reached tally plainConfig leafStores := by
  have pending : LocalAgent.pending rootStores.policies .groupsSchema leafTuples = leafTuples := by
    decide +kernel
  have allowed : ∀ parentId, (some "n").filter (· ≠ "") = some parentId →
      rootStores.Allows "alice" editPermission parentId := by
    intro parentId named
    obtain rfl : "n" = parentId := Option.some.inj named
    rfl
  have created := @Reached.create tally plainConfig _ dawn aliceToken "nn"
    { name := "leaf", parent := some "n" } _ leafGroup leafStores.groups leafTuples
    reached_rootStores parse_aliceToken rfl ⟨by decide, by decide⟩ (by decide) allowed rfl rfl rfl
  rw [pending] at created
  exact created (by decide)

/-- Alice may share the leaf, being the administrator of a group that it points to. -/
theorem authorize_iff_role_above_leafStores :
    Reached tally plainConfig leafStores ∧
      leafStores.groups.groups.find? "nn" = some leafGroup ∧ PrincipalId "alice" ∧
      PermissionSchema.groupsSchema.listedRelations? groupType sharePermission =
        some [administratorRelation] ∧
      ((((inMemoryServices tally plainConfig).authorize dawn
          (groupCheck "alice" sharePermission "nn")).perform leafStores).1 = .ok () ↔
        ∃ above, Relation.ReflTransGen leafStores.groups.PointsTo "nn" above ∧
          ∃ relation ∈ [administratorRelation],
            leafStores.policies.Stores ⟨"", above, relation, .id "alice"⟩) := by
  have found : leafStores.groups.groups.find? "nn" = some leafGroup := rfl
  have principal : PrincipalId "alice" := ⟨by decide, by decide⟩
  have listed : PermissionSchema.groupsSchema.listedRelations? groupType sharePermission =
      some [administratorRelation] := by decide
  exact ⟨reached_leafStores, found, principal, listed,
    authorize_iff_role_above reached_leafStores found principal listed dawn⟩

end RelationAuth.Service
