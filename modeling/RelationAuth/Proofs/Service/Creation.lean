import RelationAuth.Policy.ScriptedAgent
import RelationAuth.Proofs.Groups.Runs
import RelationAuth.Proofs.Service.GroupAuthority

/-!
# A group is created whole or not at all

Creating a group saves it before its policies are given, so that a policy agent that fails leaves a
group behind, which is deleted again.  Nothing lies below a group that has just been saved, and
nobody is a member of it, so that the deletion takes away that group alone.  Before the group is
saved nothing is written, whatever the agent answers.
-/

namespace RelationAuth.Service

open Groups Identity Policy

variable {α : Type} (agent : PolicyAgent α) (numbered : Nat → String) (config : TokenConfig)
  (now : Instant) (token : String) (draft : GroupDraft) (stores : Stores α)

/-- What becomes of the groups when one is created.  An operation that is halted does not return to
its caller. -/
inductive CreationOutcome : Except (Stop ServiceError) Group × Stores α → Prop where
  | failed (cause : ServiceError) {after : Stores α} (same : after.groups = stores.groups) :
      CreationOutcome (.error (.failure cause), after)
  | halted {stop : Stop ServiceError} (silent : ∀ cause, stop ≠ .failure cause)
      (after : Stores α) : CreationOutcome (.error stop, after)
  | created {caller : Principal} {id : String} {placed : Group} {after : Stores α}
      (identified : ((servicesOver agent numbered config).identify now token).perform stores =
        (.ok caller, stores))
      (saved : stores.groups.save (draftedGroup draft id caller.id now) =
        .ok (placed, after.groups)) :
      CreationOutcome (.ok placed, after)

variable {agent numbered config now token draft stores}

/-- A creation that stops with the groups as they were is a failed one. -/
theorem CreationOutcome.ofStop (stop : Stop ServiceError) {after : Stores α}
    (same : after.groups = stores.groups) :
    CreationOutcome agent numbered config now token draft stores (.error stop, after) := by
  cases stop with
  | failure cause => exact .failed cause same
  | aborted => exact .halted (by simp) after
  | unfinished => exact .halted (by simp) after

section Caller

variable {caller : Principal} (coherent : stores.groups.Coherent)
  (plain : ∀ id, stores.ids.given numbered 0 = some id → '.' ∉ id.toList)
  (identified : ((servicesOver agent numbered config).identify now token).perform stores =
    (.ok caller, stores))

include coherent plain identified

/-- A group that was saved is given its policies, or it is deleted again. -/
theorem policies_outcome {id : String} {placed : Group} {middle : Stores α}
    (given : stores.ids.given numbered 0 = some id)
    (saved : stores.groups.save (draftedGroup draft id caller.id now) =
      .ok (placed, middle.groups)) :
    CreationOutcome agent numbered config now token draft stores
      ((do
        (servicesOver agent numbered config).addCreationPolicies caller.id
          (draft.parent.filter (· ≠ "")) placed.id
        return placed : Action _ ServiceError Group).perform middle) := by
  rw [Action.perform_bind, perform_addCreationPolicies_over]
  rcases (agent.addMany (creationPolicies caller.id (draft.parent.filter (· ≠ ""))
    placed.id)).perform middle.policies with ⟨⟨cause | _ | _⟩ | _, policies⟩
  · have undone : withoutGroup middle.groups placed.id = stores.groups := by
      rw [withoutGroup, coherent.delete_saved (plain id given) saved]
    exact .failed _ undone
  · exact .halted (by simp) _
  · exact .halted (by simp) _
  · exact .created identified saved

/-- Up to the moment in which it saves a group, a creation writes no group. -/
theorem placing_outcome (policies : α) :
    CreationOutcome agent numbered config now token draft stores
      ((do
        let group ← (servicesOver agent numbered config).newGroup now caller.id
          (draft.parent.filter (· ≠ "")) draft
        let saved ← ((servicesOver agent numbered config).groups.save group).mapFailure
          ServiceError.group
        (servicesOver agent numbered config).addCreationPolicies caller.id
          (draft.parent.filter (· ≠ "")) saved.id
        return saved : Action _ ServiceError Group).perform (stores.withPolicies policies)) := by
  have ids : (stores.withPolicies policies).ids = stores.ids := rfl
  rw [Action.perform_bind, perform_newGroup_over, ids]
  rcases given : stores.ids.given numbered 0 with _ | id
  · exact .ofStop _ rfl
  have groups : ((stores.withPolicies policies).withIds stores.ids.rest).groups = stores.groups :=
    rfl
  simp only
  rw [Action.perform_bind, perform_save_over, groups]
  rcases saved : stores.groups.save (draftedGroup draft id caller.id now) with
    cause | ⟨placed, after⟩
  · exact .ofStop _ rfl
  · exact policies_outcome coherent plain identified given saved

end Caller

variable (agent config now token draft) in
/-- A creation over any agent ends with the group and its policies, or with the groups as they
were. -/
theorem createGroup_outcome_over (coherent : stores.groups.Coherent)
    (plain : ∀ id, stores.ids.given numbered 0 = some id → '.' ∉ id.toList) :
    CreationOutcome agent numbered config now token draft stores
      (((servicesOver agent numbered config).createGroup now token draft).perform stores) := by
  rw [Services.createGroup, Action.perform_bind, Action.perform_mapFailure,
    Action.perform_ofExcept]
  rcases draft.validate with cause | _
  · exact .ofStop _ rfl
  simp only [mapError_ok]
  rcases identifies_or_fails numbered config now token agent stores with
    ⟨caller, identified⟩ | ⟨cause, keys, refused⟩
  · rw [Action.perform_bind_ok identified]
    split
    · rename_i parentId named
      rw [Action.perform_bind, perform_authorize_over]
      rcases (agent.check (groupCheck caller.id editPermission parentId)).perform
        stores.policies with ⟨stop | _, policies⟩
      · exact .ofStop _ rfl
      · exact placing_outcome coherent plain identified policies
    · exact placing_outcome coherent plain identified stores.policies
  · rw [Action.perform_bind_error refused]
    exact .ofStop _ rfl

/-- A group is created whole or not at all, whatever the policy agent does.  If the operation fails,
at whichever step, the groups and their members are what they were.  If it succeeds, they are what
they were and the new group, under an id that was free; it belongs to the caller, and stands as a
root or below the group that the draft names, one level deeper. -/
theorem creation_is_all_or_nothing (agent : PolicyAgent α) (numbered : Nat → String)
    (config : TokenConfig) (now : Instant) (token : String) (draft : GroupDraft)
    {stores : Stores α} (coherent : stores.groups.Coherent)
    (plain : ∀ id, stores.ids.given numbered 0 = some id → '.' ∉ id.toList) :
    (∀ cause after,
      ((servicesOver agent numbered config).createGroup now token draft).perform stores =
        (.error (.failure cause), after) →
      after.groups = stores.groups) ∧
    ∀ group after,
      ((servicesOver agent numbered config).createGroup now token draft).perform stores =
        (.ok group, after) →
      stores.groups.groups.find? group.id = none ∧
      (∀ id, after.groups.groups.find? id =
        if id = group.id then some group else stores.groups.groups.find? id) ∧
      after.groups.members = stores.groups.members ∧
      (∃ caller, ((servicesOver agent numbered config).identify now token).perform stores =
        (.ok caller, stores) ∧ group.owner = caller.id) ∧
      group.parent = draft.parent.filter (· ≠ "") ∧
      match group.parent with
      | none => group.level = 1
      | some parentId => ∃ parent, stores.groups.groups.find? parentId = some parent ∧
        group.level = parent.level + 1 := by
  have outcome := createGroup_outcome_over agent config now token draft coherent plain
  constructor
  · intro cause after failed
    rw [failed] at outcome
    cases outcome with
    | failed _ same => exact same
    | halted silent => exact absurd rfl (silent cause)
  · intro group after succeeded
    rw [succeeded] at outcome
    cases outcome with
    | @created caller id _ _ identified saved =>
      rcases GroupStore.of_save saved with ⟨free, placing, grown⟩
      have own := GroupStore.id_of_save saved
      refine ⟨own ▸ free, ?_, by rw [grown], ⟨caller, identified, ?_⟩, ?_, ?_⟩
      · intro other
        rw [GroupStore.find?_save saved, own]
      · rcases placing with ⟨_, rfl⟩ | ⟨_, _, _, _, _, rfl⟩ <;> rfl
      · exact (coherent.hierarchy.parent_of_save saved).trans filter_parent_draftedGroup
      · rcases placing with ⟨_, rfl⟩ | ⟨parentId, parent, _, above, _, rfl⟩
        · rfl
        · rw [← coherent.hierarchy.keyed parentId parent above] at above
          exact ⟨parent, above, rfl⟩

/-- Stores with a root whose policy agent grants the next check, and fails every write or none. -/
def scriptedStores (writeFault : Option PolicyError) : Stores AgentScript :=
  { policies := { checks := [.ok ()], writeFault }
    groups := rootStores.groups
    ids := rootStores.ids }

/-- The draft of a group under the root. -/
def leafDraft : GroupDraft :=
  { name := "leaf", parent := some "n" }

theorem identify_scriptedStores (writeFault : Option PolicyError) :
    ((servicesOver ScriptedAgent.agent tally plainConfig).identify dawn aliceToken).perform
        (scriptedStores writeFault) =
      (.ok { id := "alice", email := "" }, scriptedStores writeFault) := by
  rw [perform_identify_over, parse_aliceToken]
  rfl

/-- Under a root, a group is created with an agent that writes, and leaves nothing behind with one
that fails to. -/
theorem creation_is_all_or_nothing_leafDraft :
    (∃ cause after,
      ((servicesOver ScriptedAgent.agent tally plainConfig).createGroup dawn aliceToken
        leafDraft).perform (scriptedStores (some .unauthorized)) = (.error (.failure cause), after) ∧
      after.groups = rootStores.groups) ∧
    ∃ group after,
      ((servicesOver ScriptedAgent.agent tally plainConfig).createGroup dawn aliceToken
        leafDraft).perform (scriptedStores none) = (.ok group, after) ∧
      after.groups.groups.find? group.id = some group ∧ group.parent = some "n" ∧
      group.owner = "alice" := by
  have coherent : rootStores.groups.Coherent := by
    have saved : GroupStore.empty.save rootGroup = .ok (rootGroup, rootStores.groups) := rfl
    exact GroupStore.coherent_empty.save (by decide) saved
  have plain : ∀ id, rootStores.ids.given tally 0 = some id → '.' ∉ id.toList := by
    rintro id ⟨⟩
    decide
  have validated (writeFault : Option PolicyError) :
      ((Action.ofExcept leafDraft.validate).mapFailure ServiceError.group :
        Action (Stores AgentScript) ServiceError Unit).perform (scriptedStores writeFault) =
          (.ok (), scriptedStores writeFault) := rfl
  constructor
  · have failed : ∃ cause after,
        ((servicesOver ScriptedAgent.agent tally plainConfig).createGroup dawn aliceToken
          leafDraft).perform (scriptedStores (some .unauthorized)) =
            (.error (.failure cause), after) := by
      rw [Services.createGroup, Action.perform_bind_ok (validated _),
        Action.perform_bind_ok (identify_scriptedStores _)]
      exact ⟨_, _, rfl⟩
    rcases failed with ⟨cause, after, failed⟩
    exact ⟨cause, after, failed, (creation_is_all_or_nothing ScriptedAgent.agent tally plainConfig
      dawn aliceToken leafDraft coherent plain).1 cause after failed⟩
  · have succeeded : ∃ group after,
        ((servicesOver ScriptedAgent.agent tally plainConfig).createGroup dawn aliceToken
          leafDraft).perform (scriptedStores none) = (.ok group, after) := by
      rw [Services.createGroup, Action.perform_bind_ok (validated _),
        Action.perform_bind_ok (identify_scriptedStores _)]
      exact ⟨_, _, rfl⟩
    rcases succeeded with ⟨group, after, succeeded⟩
    rcases (creation_is_all_or_nothing ScriptedAgent.agent tally plainConfig
      dawn aliceToken leafDraft coherent plain).2 group after succeeded with
        ⟨_, found, _, ⟨caller, identified, owner⟩, parent, _⟩
    cases (identify_scriptedStores none).symm.trans identified
    exact ⟨group, after, succeeded, by rw [found, if_pos rfl], parent, owner⟩

end RelationAuth.Service
