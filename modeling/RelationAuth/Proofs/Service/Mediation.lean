import RelationAuth.Proofs.Service.GroupRuns

/-!
# Complete mediation

No operation changes groups, members or policies unless its token identifies a caller who holds the
permission that the operation asks for.  Whatever an operation goes on to do, it comes after the
identification and the check, and an action that is refused there ends as it stands.
-/

namespace RelationAuth.Service

open Groups Identity Policy

/-- An operation that changes groups: one that creates or removes them or changes their members, or
one that changes the attributes of a group. -/
inductive GroupChange where
  | shape (call : GroupCall)
  | update (amendment : GroupAmendment)
  | enable (id : String)
  | disable (id : String)

namespace GroupChange

/-- What an operation does. -/
def run {σ : Type} (services : Services σ) (now : Instant) (token : String) :
    GroupChange → Action σ ServiceError Unit
  | shape call => call.run services now token
  | update amendment => do
    let _ ← services.updateGroup now token amendment
  | enable id => do
    let _ ← services.enableGroup now token id
  | disable id => do
    let _ ← services.disableGroup now token id

/-- The permission that an operation asks for and the group on which it does.  Creating a root asks
for none. -/
def demand : GroupChange → Option (String × String)
  | shape (.create draft) => (draft.parent.filter (· ≠ "")).map fun parentId =>
    (editPermission, parentId)
  | shape (.remove id) => some (deletePermission, id)
  | shape (.assign groupId _ _ _) | shape (.unassign groupId _ _ _) =>
    some (editPermission, groupId)
  | update amendment => some (editPermission, amendment.id)
  | enable id | disable id => some (editPermission, id)

end GroupChange

variable (numbered : Nat → String) (config : TokenConfig) (now : Instant) (token : String)
  (stores : Stores TupleStore)

/-- Whether a token identifies a caller who holds what an operation asks for. -/
def Permitted (change : GroupChange) : Prop :=
  ∃ caller, ((inMemoryServices numbered config).identify now token).perform stores =
      (.ok caller, stores) ∧
    ∀ permission groupId, change.demand = some (permission, groupId) →
      stores.Allows caller.id permission groupId

/-- Whether an operation failed and changed nothing but the stored keys. -/
def Refused {α : Type} (outcome : Outcome α) : Prop :=
  ∃ cause keys, outcome = (.error (.failure cause), stores.withKeys keys)

variable {numbered config now token stores}

theorem Refused.bind {α β : Type} {action : Action (Stores TupleStore) ServiceError α}
    {next : α → Action (Stores TupleStore) ServiceError β}
    (refused : Refused stores (action.perform stores)) :
    Refused stores ((action >>= next).perform stores) := by
  rcases refused with ⟨cause, keys, outcome⟩
  exact ⟨cause, keys, Action.perform_bind_error outcome⟩

variable (numbered config now token stores)

theorem identifies_or_refuses :
    (∃ caller, ((inMemoryServices numbered config).identify now token).perform stores =
      (.ok caller, stores)) ∨
      Refused stores (((inMemoryServices numbered config).identify now token).perform stores) :=
  identifies_or_fails numbered config now token LocalAgent.inMemory stores

/-- A user is allowed what he asks, or his request is refused. -/
theorem allows_or_refuses (user permission groupId : String) :
    stores.Allows user permission groupId ∨
      Refused stores (((inMemoryServices numbered config).authorize now
        (groupCheck user permission groupId)).perform stores) := by
  have asked : LocalAgent.inMemory.check (groupCheck user permission groupId) =
      Action.query (LocalAgent.answer TupleRepository.inMemory .groupsSchema
        (groupCheck user permission groupId)) := rfl
  rw [perform_authorize, Stores.Allows, asked, Action.perform_query]
  rcases LocalAgent.answer TupleRepository.inMemory .groupsSchema
    (groupCheck user permission groupId) stores.policies with cause | _
  · exact .inr ⟨ServiceError.ofPolicy cause, stores.keys, rfl⟩
  · exact .inl rfl

variable {numbered config now token stores}

/-- The check of the caller of an operation on a group refuses everybody who is not permitted. -/
theorem authorizeOnGroup_refuses {change : GroupChange} {permission groupId : String}
    (demanded : change.demand = some (permission, groupId))
    (forbidden : ¬Permitted numbered config now token stores change) :
    Refused stores (((inMemoryServices numbered config).authorizeOnGroup now token permission
      groupId).perform stores) := by
  rcases identifies_or_refuses numbered config now token stores with ⟨caller, identified⟩ | refused
  · rw [Services.authorizeOnGroup, Action.perform_bind_ok identified]
    rcases allows_or_refuses numbered config now stores caller.id permission groupId with
      allowed | refused
    · refine absurd ⟨caller, identified, ?_⟩ forbidden
      rintro _ _ same
      rw [demanded] at same
      cases same
      exact allowed
    · exact refused.bind
  · exact refused.bind

theorem createGroup_refuses {draft : GroupDraft}
    (forbidden : ¬Permitted numbered config now token stores (.shape (.create draft))) :
    Refused stores (((inMemoryServices numbered config).createGroup now token draft).perform
      stores) := by
  rw [Services.createGroup, Action.perform_bind, Action.perform_mapFailure,
    Action.perform_ofExcept]
  rcases draft.validate with cause | _
  · exact ⟨.group cause, stores.keys, rfl⟩
  rcases identifies_or_refuses numbered config now token stores with ⟨caller, identified⟩ | refused
  · simp only [mapError_ok, Action.perform_bind_ok identified]
    split
    · rename_i parentId named
      rcases allows_or_refuses numbered config now stores caller.id editPermission parentId with
        allowed | refused
      · refine absurd ⟨caller, identified, ?_⟩ forbidden
        rintro _ _ same
        rw [GroupChange.demand, named] at same
        cases same
        exact allowed
      · exact refused.bind
    · rename_i root
      refine absurd ⟨caller, identified, ?_⟩ forbidden
      rintro _ _ same
      rcases Option.map_eq_some_iff.mp same with ⟨parentId, named, -⟩
      exact (root parentId named).elim
  · exact refused.bind

theorem updateGroup_refuses {amendment : GroupAmendment}
    (forbidden : ¬Permitted numbered config now token stores (.update amendment)) :
    Refused stores (((inMemoryServices numbered config).updateGroup now token amendment).perform
      stores) := by
  rw [Services.updateGroup, Action.perform_bind, Action.perform_mapFailure,
    Action.perform_ofExcept]
  rcases amendment.validate with cause | _
  · exact ⟨.group cause, stores.keys, rfl⟩
  · exact (authorizeOnGroup_refuses rfl forbidden).bind

/-- An operation whose caller is not permitted is refused. -/
theorem GroupChange.run_refuses {change : GroupChange}
    (forbidden : ¬Permitted numbered config now token stores change) :
    Refused stores ((change.run (inMemoryServices numbered config) now token).perform stores) := by
  rcases change with (_ | _ | _ | _) | _ | _ | _
  · exact (createGroup_refuses forbidden).bind
  · exact (authorizeOnGroup_refuses rfl forbidden).bind
  · exact (authorizeOnGroup_refuses rfl forbidden).bind
  · exact (authorizeOnGroup_refuses rfl forbidden).bind
  · exact (updateGroup_refuses forbidden).bind
  · exact (authorizeOnGroup_refuses rfl forbidden).bind.bind
  · exact (authorizeOnGroup_refuses rfl forbidden).bind.bind

/-- Complete mediation: an operation that changes groups, members or policies, whether it succeeds
or not, has a permitted caller, and without one it fails and leaves them alone. -/
theorem changes_are_mediated (numbered : Nat → String) (config : TokenConfig) (now : Instant)
    (token : String) (stores : Stores TupleStore) (change : GroupChange) :
    let outcome := (change.run (inMemoryServices numbered config) now token).perform stores
    (outcome.2.groups ≠ stores.groups ∨ outcome.2.policies ≠ stores.policies →
        Permitted numbered config now token stores change) ∧
      (¬Permitted numbered config now token stores change →
        (∃ cause, outcome.1 = .error (.failure cause)) ∧ outcome.2.groups = stores.groups ∧
          outcome.2.policies = stores.policies) := by
  intro outcome
  have refusal : ¬Permitted numbered config now token stores change →
      (∃ cause, outcome.1 = .error (.failure cause)) ∧ outcome.2.groups = stores.groups ∧
        outcome.2.policies = stores.policies := by
    intro forbidden
    rcases GroupChange.run_refuses forbidden with ⟨cause, keys, refused⟩
    simp only [outcome, refused]
    exact ⟨⟨cause, rfl⟩, rfl, rfl⟩
  refine ⟨?_, refusal⟩
  intro changed
  by_contra forbidden
  rcases changed with groups | policies
  · exact groups (refusal forbidden).2.1
  · exact policies (refusal forbidden).2.2

end RelationAuth.Service
