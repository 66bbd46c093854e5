import RelationAuth.Proofs.Service.KeyRuns

/-!
# Keys of different owners

Every operation on keys works for one owner: the caller of a session, whatever the request says, or
the owner that the token of an expired API key names.  So operations that come with the tokens of
others leave the keys of an owner as they are, and what an owner is told of the stored keys depends
on the keys of that owner alone.  A key of somebody else cannot be told from one that does not
exist.
-/

namespace RelationAuth

namespace Identity.KeyStore

/-- Whether two stores hold the same keys of an owner. -/
def AgreeOn (owner : String) (left right : KeyStore) : Prop :=
  ∀ id, left.keys.find? (owner, id) = right.keys.find? (owner, id)

variable {owner holder : String} {left middle right store : KeyStore}

theorem AgreeOn.refl (owner : String) (store : KeyStore) : AgreeOn owner store store :=
  fun _ => rfl

theorem AgreeOn.symm (agree : AgreeOn owner left right) : AgreeOn owner right left :=
  fun id => (agree id).symm

theorem AgreeOn.trans (first : AgreeOn owner left middle) (second : AgreeOn owner middle right) :
    AgreeOn owner left right :=
  fun id => (first id).trans (second id)

theorem agreeOn_put {key : Key} (other : key.subjectId ≠ owner) :
    AgreeOn owner store (store.put key) := by
  intro id
  have differs : (owner, id) ≠ (key.subjectId, key.id) := by
    intro same
    exact other (congrArg Prod.fst same).symm
  simp [put, Table.find?_insert, differs]

theorem agreeOn_remove (other : holder ≠ owner) (name : String) :
    AgreeOn owner store (store.remove holder name) := by
  intro id
  have differs : (owner, id) ≠ (holder, name) := by
    intro same
    exact other (congrArg Prod.fst same).symm
  simp [remove, Table.find?_erase, differs]

/-- Removing a key of the owner from both stores leaves them in agreement. -/
theorem AgreeOn.remove (agree : AgreeOn owner left right) (name : String) :
    AgreeOn owner (left.remove owner name) (right.remove owner name) := by
  intro id
  simp only [KeyStore.remove, Table.find?_erase, agree id]

theorem AgreeOn.retrieve (agree : AgreeOn owner left right) (id : String) :
    left.retrieve owner id = right.retrieve owner id := by
  simp only [KeyStore.retrieve, agree id]

end Identity.KeyStore

namespace Service

open Groups Identity Policy

/-- The token that comes with an operation on keys. -/
def KeyCall.bearer : KeyCall → String
  | issue token _ | revoke token _ | retrieve token _ | identify token => token

/-- Whether a token names a subject: it is read as a key of the subject, or as one of the subject's
API keys that has expired. -/
def Names (config : TokenConfig) (now : Instant) (token subjectId : String) : Prop :=
  (∃ key, config.tokenizer.parse now token = .ok key ∧ key.subjectId = subjectId) ∨
    ∃ id, config.tokenizer.parse now token = .error (.apiKeyExpired id subjectId)

/-- Whether stores hold the same keys of an owner as others. -/
def KeepsKeysOf {α : Type} (owner : String) (before after : Stores α) : Prop :=
  before.keys.AgreeOn owner after.keys

variable {α : Type} {agent : PolicyAgent α} {numbered : Nat → String} {config : TokenConfig}
  {now : Instant} {stores : Stores α} {token owner other : String}

/-- The caller of a session is the subject that the token names. -/
theorem Names.subjectId_eq (names : Names config now token owner) {session : Key}
    (caller : sessionOf config now token = .ok session) : session.subjectId = owner := by
  have parsed := (sessionOf_eq_ok_iff.mp caller).1
  rcases names with ⟨key, read, named⟩ | ⟨id, expired⟩
  · cases parsed.symm.trans read
    exact named
  · cases parsed.symm.trans expired

/-- A token that reports an expired key reports one of its own owner. -/
theorem Names.owner_eq (names : Names config now token owner) {id : String}
    (expired : config.tokenizer.parse now token = .error (.apiKeyExpired id other)) :
    other = owner := by
  rcases names with ⟨key, read, -⟩ | ⟨_, expiredToo⟩
  · cases expired.symm.trans read
  · cases expired.symm.trans expiredToo
    rfl

variable (agent numbered config) in
/-- Saving a key of somebody else leaves the keys of an owner, whether or not it is refused. -/
theorem agreeOn_saveKey {key : Key} (foreign : key.subjectId ≠ owner) :
    stores.keys.AgreeOn owner
      (((servicesOver agent numbered config).keys.save key).perform stores).2.keys := by
  rw [perform_saveKey_over, KeyStore.save]
  split
  · rename_i saved
    split at saved
    · cases saved
    · cases saved
      exact KeyStore.agreeOn_put foreign
  · exact .refl owner stores.keys

/-- An API key is stored for the caller of the session, so that nobody else's keys change. -/
theorem agreeOn_issueApiKey (names : Names config now token other) (differs : other ≠ owner)
    (request : Key) :
    stores.keys.AgreeOn owner
      (((servicesOver agent numbered config).issueApiKey now token request).perform
        stores).2.keys := by
  rw [Services.issueApiKey, Action.perform_bind, perform_login_over]
  rcases caller : sessionOf config now token with cause | session
  · exact .refl owner stores.keys
  have foreign : session.subjectId ≠ owner := by
    rwa [names.subjectId_eq caller]
  refine Action.perform_bind_keeps (R := KeepsKeysOf owner) .trans ?_ fun id drawn _ => ?_
  · rw [Action.perform_mapFailure, perform_newId_over]
    exact .refl owner stores.keys
  refine Action.perform_bind_keeps (R := KeepsKeysOf owner) .trans ?_ fun _ stored _ => ?_
  · rw [Action.perform_mapFailure]
    exact agreeOn_saveKey agent numbered config foreign
  · rw [Action.perform_bind_leaves (issueToken_leaves _) fun _ => rfl]
    exact .refl owner stored.keys

variable (agent numbered config now stores) in
/-- An operation that comes with the token of somebody else leaves the keys of an owner. -/
theorem KeyCall.agreeOn_run (call : KeyCall) (names : Names config now call.bearer other)
    (differs : other ≠ owner) :
    stores.keys.AgreeOn owner
      ((call.run (servicesOver agent numbered config) now).perform stores).2.keys := by
  cases call with
  | issue token request =>
    by_cases api : request.keyType = .api
    · refine Action.perform_bind_keeps (R := KeepsKeysOf owner) .trans ?_
        fun _ after _ => .refl owner after.keys
      rcases issuedAt : request.issuedAt with _ | moment
      · simp only [Services.issue, issuedAt]
        exact .refl owner stores.keys
      · simp only [Services.issue, issuedAt, api, Action.perform_mapFailure]
        exact agreeOn_issueApiKey names differs request
    · rw [issue_leaves token api]
      exact .refl owner stores.keys
  | revoke token id =>
    simp only [KeyCall.run, Action.perform_bind, perform_revoke]
    rcases caller : sessionOf config now token with cause | session
    · exact .refl owner stores.keys
    · have foreign : session.subjectId ≠ owner := by
        rwa [names.subjectId_eq caller]
      exact KeyStore.agreeOn_remove foreign id
  | retrieve token id =>
    simp only [KeyCall.run, Action.perform_bind, perform_retrieveKey]
    rcases sessionOf config now token with cause | session
    · exact .refl owner stores.keys
    · simp only
      rcases stores.keys.retrieve session.subjectId id with cause | key <;>
        exact .refl owner stores.keys
  | identify token =>
    simp only [KeyCall.run, Action.perform_bind, perform_identify_over]
    rcases parsed : config.tokenizer.parse now token with cause | key
    · cases cause with
      | apiKeyExpired id holder =>
        have foreign : holder ≠ owner := by
          rwa [names.owner_eq parsed]
        exact KeyStore.agreeOn_remove foreign id
      | _ => exact .refl owner stores.keys
    · simp only
      rcases principalOf stores.keys key with cause | principal <;> exact .refl owner stores.keys

/-! ### What an owner is told -/

section Answers

variable {left right : Stores α}

variable (agent numbered) in
/-- What the caller of a session retrieves depends on the caller's own keys alone. -/
theorem retrieveKey_eq_of_agreeOn (names : Names config now token owner)
    (agree : left.keys.AgreeOn owner right.keys) (id : String) :
    (((servicesOver agent numbered config).retrieveKey now token id).perform left).1 =
      (((servicesOver agent numbered config).retrieveKey now token id).perform right).1 := by
  rw [perform_retrieveKey, perform_retrieveKey]
  rcases caller : sessionOf config now token with cause | session
  · rfl
  · simp only [names.subjectId_eq caller, agree.retrieve id]

variable (agent numbered) in
/-- Revoking answers the same whatever keys are stored. -/
theorem revoke_eq (left right : Stores α) (id : String) :
    (((servicesOver agent numbered config).revoke now token id).perform left).1 =
      (((servicesOver agent numbered config).revoke now token id).perform right).1 := by
  rw [perform_revoke, perform_revoke]
  rcases sessionOf config now token with cause | session <;> rfl

/-- The stores that operations lead to which come with the tokens of others than an owner. -/
inductive OthersRun (agent : PolicyAgent α) (numbered : Nat → String) (config : TokenConfig)
    (owner : String) (start : Stores α) : Stores α → Prop where
  | start : OthersRun agent numbered config owner start start
  | call {stores : Stores α} (run : OthersRun agent numbered config owner start stores)
      {now : Instant} {call : KeyCall} {other : String}
      (names : Names config now call.bearer other) (differs : other ≠ owner) :
      OthersRun agent numbered config owner start
        ((call.run (servicesOver agent numbered config) now).perform stores).2

/-- No run of calls by others makes a difference to an owner's keys. -/
theorem OthersRun.agreeOn {start : Stores α}
    (run : OthersRun agent numbered config owner start stores) :
    start.keys.AgreeOn owner stores.keys := by
  induction run with
  | start => exact .refl owner start.keys
  | call run names differs ih =>
    exact ih.trans (KeyCall.agreeOn_run agent numbered config _ _ _ names differs)

/-- Whatever others do, an owner retrieves what was there before. -/
theorem OthersRun.retrieveKey_eq {start : Stores α}
    (run : OthersRun agent numbered config owner start stores)
    (names : Names config now token owner) (id : String) :
    (((servicesOver agent numbered config).retrieveKey now token id).perform stores).1 =
      (((servicesOver agent numbered config).retrieveKey now token id).perform start).1 :=
  retrieveKey_eq_of_agreeOn agent numbered names run.agreeOn.symm id

end Answers

/-- Owners are apart.  An operation on keys that comes with the token of one subject leaves the keys
of every other owner as they are.  What an owner is told when retrieving or revoking a key is the
same in any stores that hold the same keys of that owner, and both of them agree on these keys
afterwards.  So it is the same whether or not a key of somebody else is stored. -/
theorem owners_are_apart (agent : PolicyAgent α) (numbered : Nat → String) (config : TokenConfig)
    (now : Instant) {owner other : String} (differs : other ≠ owner) :
    (∀ (call : KeyCall) (stores : Stores α), Names config now call.bearer other →
      stores.keys.AgreeOn owner
        ((call.run (servicesOver agent numbered config) now).perform stores).2.keys) ∧
    ∀ token, Names config now token owner → ∀ id,
      let retrieve := (servicesOver agent numbered config).retrieveKey now token id
      let revoke := (servicesOver agent numbered config).revoke now token id
      (∀ left right : Stores α, left.keys.AgreeOn owner right.keys →
        (retrieve.perform left).1 = (retrieve.perform right).1 ∧
        (revoke.perform left).1 = (revoke.perform right).1 ∧
        (revoke.perform left).2.keys.AgreeOn owner (revoke.perform right).2.keys) ∧
      ∀ (stores : Stores α) (key : Key), key.subjectId = other →
        (retrieve.perform (stores.withKeys (stores.keys.put key))).1 =
          (retrieve.perform stores).1 ∧
        (revoke.perform (stores.withKeys (stores.keys.put key))).1 = (revoke.perform stores).1 := by
  constructor
  · intro call stores names
    exact call.agreeOn_run agent numbered config now stores names differs
  intro token names id
  constructor
  · intro left right agree
    refine ⟨retrieveKey_eq_of_agreeOn agent numbered names agree id,
      revoke_eq agent numbered left right id, ?_⟩
    simp only [perform_revoke]
    rcases caller : sessionOf config now token with cause | session
    · exact agree
    · simp only [names.subjectId_eq caller]
      exact agree.remove id
  · rintro stores key rfl
    have agree : (stores.withKeys (stores.keys.put key)).keys.AgreeOn owner stores.keys :=
      (KeyStore.agreeOn_put differs).symm
    exact ⟨retrieveKey_eq_of_agreeOn agent numbered names agree id, revoke_eq agent numbered _ _ id⟩

/-- An API key of bob with the id of the first API key of alice. -/
def bobKey : Key :=
  { aliceKey with
    subjectId := "bob"
    subject := "" }

/-- A token that removes the key of alice with an id leaves the key of bob with the same id, and
alice, who has no such key any more, is told the same about it as if bob had none either. -/
theorem bob_is_apart_from_alice :
    Names plainConfig afterDawn strayToken "alice" ∧
    (((KeyCall.identify strayToken).run (inMemoryServices tally plainConfig) afterDawn).perform
      (keyedStores.withKeys (keyedStores.keys.put bobKey))).2.keys.keys.find? ("bob", "n") =
        some bobKey ∧
    Names plainConfig dawn aliceToken "alice" ∧
    (((inMemoryServices tally plainConfig).retrieveKey dawn aliceToken "n").perform
      { policies := TupleStore.empty, keys := KeyStore.empty.put bobKey }).1 =
        .error (.failure (.identity .keyNotFound)) := by
  have stray : Names plainConfig afterDawn strayToken "alice" := .inr ⟨"n", parse_strayToken⟩
  have own : Names plainConfig dawn aliceToken "alice" := .inl ⟨_, parse_aliceToken, rfl⟩
  refine ⟨stray, ?_, own, ?_⟩
  · have kept := (owners_are_apart LocalAgent.inMemory tally plainConfig afterDawn
      (show "alice" ≠ "bob" by decide)).1 (.identify strayToken)
        (keyedStores.withKeys (keyedStores.keys.put bobKey)) stray "n"
    have held : (keyedStores.withKeys (keyedStores.keys.put bobKey)).keys.keys.find? ("bob", "n") =
        some bobKey := by decide
    rw [inMemoryServices, ← kept, held]
  · have same := (owners_are_apart LocalAgent.inMemory tally plainConfig dawn
      (show "bob" ≠ "alice" by decide)).2 aliceToken own "n"
    refine (same.2 { policies := TupleStore.empty } bobKey rfl).1.trans ?_
    rw [perform_retrieveKey, sessionOf_aliceToken]
    rfl

end Service

end RelationAuth
