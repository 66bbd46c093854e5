import RelationAuth.Proofs.Service.GroupAuthority
import RelationAuth.Proofs.Service.KeyEffects

/-!
# The life of API keys

An API key is stored when its token is issued, and its token identifies its owner as long as it is
stored and has not expired.  Along every run of operations on keys, a key leaves the store in two
ways only: its owner revokes it, or somebody presents a token that says of it that it has expired.
As no id is given twice, it never comes back.
-/

namespace RelationAuth.Service

open Groups Identity Policy

variable {numbered : Nat → String} {config : TokenConfig} {now : Instant}
  {stores : Stores TupleStore}

/-- An operation on keys that was performed at a time, and its answer. -/
structure KeyEvent where
  now : Instant
  call : KeyCall
  answer : Except (Stop ServiceError) KeyAnswer

namespace KeyEvent

variable (config) in
/-- Whether an owner revokes a key with an access token. -/
def Revokes (owner id : String) (event : KeyEvent) : Prop :=
  ∃ login session, event.call = .revoke login id ∧ event.answer = .ok .revoked ∧
    config.tokenizer.parse event.now login = .ok session ∧ session.keyType = .access ∧
    session.subjectId = owner

variable (config) in
/-- Whether a token is presented that says of an API key that it has expired. -/
def Expires (owner id token : String) (event : KeyEvent) : Prop :=
  event.call = .identify token ∧
    config.tokenizer.parse event.now token = .error (.apiKeyExpired id owner)

variable (config) in
/-- Whether a key is removed from the store. -/
def Removes (owner id : String) (event : KeyEvent) : Prop :=
  event.Revokes config owner id ∨ ∃ token, event.Expires config owner id token

end KeyEvent

/-- Whether the calendar represents the times that an operation names. -/
def KeyCall.OnCalendar : KeyCall → Prop
  | issue _ request => request.OnCalendar
  | _ => True

/-- The stores that runs of operations on keys lead to, with what was performed, the latest first.
A run begins without keys, with a source that gives no id twice. -/
inductive KeyRun (numbered : Nat → String) (config : TokenConfig) :
    List KeyEvent → Stores TupleStore → Prop where
  | start {stores : Stores TupleStore} (none : stores.keys = KeyStore.empty)
      (unrepeated : stores.ids.Unrepeated numbered) : KeyRun numbered config [] stores
  | call {past : List KeyEvent} {stores : Stores TupleStore}
      (run : KeyRun numbered config past stores) (now : Instant) (call : KeyCall)
      (onCalendar : call.OnCalendar) :
      KeyRun numbered config
        (⟨now, call,
          ((call.run (inMemoryServices numbered config) now).perform stores).1⟩ :: past)
        ((call.run (inMemoryServices numbered config) now).perform stores).2

/-- Whether every stored key is an API key under its owner and its id. -/
def Keyed (keys : KeyStore) : Prop :=
  ∀ owner id key, keys.keys.find? (owner, id) = some key →
    key.keyType = .api ∧ key.subjectId = owner ∧ key.id = id

theorem Keyed.remove {keys : KeyStore} (keyed : Keyed keys) (owner id : String) :
    Keyed (keys.remove owner id) := by
  intro holder name key found
  rw [KeyStore.remove, Table.find?_erase] at found
  split at found
  · cases found
  · exact keyed holder name key found

theorem Keyed.put {keys : KeyStore} (keyed : Keyed keys) {key : Key} (api : key.keyType = .api) :
    Keyed (keys.put key) := by
  intro owner id held found
  rw [KeyStore.put, Table.find?_insert] at found
  split at found
  · rename_i same
    cases found
    cases same
    exact ⟨api, rfl, rfl⟩
  · exact keyed owner id held found

variable {call : KeyCall} {answer : Except (Stop ServiceError) KeyAnswer}
  {after : Stores TupleStore} {owner id : String}

/-- Every operation keeps every stored key in its place. -/
theorem KeyOutcome.keyed (outcome : KeyOutcome numbered config now stores call (answer, after))
    (keyed : Keyed stores.keys) : Keyed after.keys := by
  cases outcome with
  | issued api => exact keyed.put api
  | revoked => exact keyed.remove _ _
  | expired => exact keyed.remove _ _
  | unissued | loggedIn | unrevoked | retrieved | identified => exact keyed

theorem KeyOutcome.ids (outcome : KeyOutcome numbered config now stores call (answer, after)) :
    after.ids = stores.ids ∨ after.ids = stores.ids.rest := by
  cases outcome with
  | issued => exact .inr rfl
  | unissued _ _ source => exact source
  | revoked | expired | loggedIn | unrevoked | retrieved | identified => exact .inl rfl

theorem KeyOutcome.unrepeated
    (outcome : KeyOutcome numbered config now stores call (answer, after))
    (unrepeated : stores.ids.Unrepeated numbered) : after.ids.Unrepeated numbered := by
  rcases outcome.ids with same | rest
  · rw [same]
    exact unrepeated
  · rw [rest]
    exact unrepeated.rest

theorem KeyOutcome.spent (outcome : KeyOutcome numbered config now stores call (answer, after))
    (spent : stores.ids.Spent numbered id) : after.ids.Spent numbered id := by
  rcases outcome.ids with same | rest
  · rw [same]
    exact spent
  · rw [rest]
    exact spent.rest

theorem contains_put {keys : KeyStore} {key : Key} :
    (keys.put key).keys.contains (owner, id) = true ↔
      (owner = key.subjectId ∧ id = key.id) ∨ keys.keys.contains (owner, id) = true := by
  by_cases same : owner = key.subjectId ∧ id = key.id <;>
    simp [KeyStore.put, Table.contains, Table.find?_insert, same]

theorem contains_remove {keys : KeyStore} {holder name : String} :
    (keys.remove holder name).keys.contains (owner, id) = true ↔
      keys.keys.contains (owner, id) = true ∧ ¬(owner = holder ∧ id = name) := by
  by_cases same : owner = holder ∧ id = name <;>
    simp [KeyStore.remove, Table.contains, Table.find?_erase, same]

/-- A revocation removes the key of its session that it names. -/
theorem removes_revoke_iff {login name : String} {session : Key}
    (caller : sessionOf config now login = .ok session) :
    KeyEvent.Removes config owner id ⟨now, .revoke login name, .ok .revoked⟩ ↔
      owner = session.subjectId ∧ id = name := by
  rcases sessionOf_eq_ok_iff.mp caller with ⟨parsed, access, -⟩
  constructor
  · rintro (⟨_, other, ⟨⟩, -, parsedToo, -, rfl⟩ | ⟨_, ⟨⟩, -⟩)
    cases parsed.symm.trans parsedToo
    exact ⟨rfl, rfl⟩
  · rintro ⟨rfl, rfl⟩
    exact .inl ⟨login, session, rfl, rfl, parsed, access, rfl⟩

/-- An identification removes the key whose expiry its token reports. -/
theorem removes_identify_iff {token : String} :
    KeyEvent.Removes config owner id ⟨now, .identify token, answer⟩ ↔
      config.tokenizer.parse now token = .error (.apiKeyExpired id owner) := by
  constructor
  · rintro (⟨_, _, ⟨⟩, -⟩ | ⟨_, ⟨⟩, parsed⟩)
    exact parsed
  · intro parsed
    exact .inr ⟨token, rfl, parsed⟩

/-- A key whose id is spent stays stored through an operation unless this removes it, and it is not
stored again. -/
theorem KeyOutcome.contains_iff
    (outcome : KeyOutcome numbered config now stores call (answer, after))
    (spent : stores.ids.Spent numbered id) :
    after.keys.keys.contains (owner, id) = true ↔
      stores.keys.keys.contains (owner, id) = true ∧
        ¬KeyEvent.Removes config owner id ⟨now, call, answer⟩ := by
  cases outcome with
  | @issued login given value request session api caller found =>
    have other : ¬(owner = (ownedKey config session given request).subjectId ∧
        id = (ownedKey config session given request).id) := by
      rintro ⟨-, rfl⟩
      exact spent 0 found
    simp [Stores.withKeys, contains_put, other, KeyEvent.Removes, KeyEvent.Revokes,
      KeyEvent.Expires]
  | revoked caller => simp only [Stores.withKeys, contains_remove, removes_revoke_iff caller]
  | expired parsed =>
    simp only [Stores.withKeys, contains_remove, removes_identify_iff, parsed, Except.error.injEq,
      IdentityError.apiKeyExpired.injEq]
    rw [and_comm (a := owner = _), eq_comm (a := id), eq_comm (a := owner)]
  | identified unexpired => simp [removes_identify_iff, unexpired]
  | unissued | loggedIn | unrevoked | retrieved =>
    simp [KeyEvent.Removes, KeyEvent.Revokes, KeyEvent.Expires, Stores.withIds]

namespace KeyRun

variable {events : List KeyEvent}

/-- Along every run, only API keys are kept, each under its own owner and id. -/
theorem keyed (run : KeyRun numbered config events stores) : Keyed stores.keys := by
  induction run with
  | start none =>
    rw [none]
    intro owner id key found
    cases found
  | call run now call _ ih => exact KeyOutcome.keyed (KeyCall.run_outcome _ _ _ _ call) ih

/-- Along every run, the ids to come are all different. -/
theorem unrepeated (run : KeyRun numbered config events stores) :
    stores.ids.Unrepeated numbered := by
  induction run with
  | start none unrepeated => exact unrepeated
  | call run now call _ ih => exact KeyOutcome.unrepeated (KeyCall.run_outcome _ _ _ _ call) ih

/-- From the moment in which its token is issued, a key is stored until something removes it. -/
theorem stored_iff (run : KeyRun numbered config events stores) {since before : List KeyEvent}
    {issuing : Instant} {login : String} {request : Key} {token : Token}
    (order : events = since ++ ⟨issuing, .issue login request, .ok (.token token)⟩ :: before)
    (api : request.keyType = .api) :
    ∃ session id, sessionOf config issuing login = .ok session ∧
      config.tokenizer.issue (ownedKey config session id request) = .ok token.value ∧
      request.OnCalendar ∧ request.issuedAt.isSome ∧ stores.ids.Spent numbered id ∧
      (stores.keys.keys.contains (session.subjectId, id) = true ↔
        ∀ event ∈ since, ¬event.Removes config session.subjectId id) := by
  induction run generalizing since with
  | start => simp at order
  | @call past stores run now call onCalendar ih =>
    have outcome := KeyCall.run_outcome numbered config now stores call
    generalize (call.run (inMemoryServices numbered config) now).perform stores = result
      at outcome order ⊢
    rcases result with ⟨answer, after⟩
    rcases since with _ | ⟨latest, since⟩
    · -- The latest operation is the one that issued the token.
      simp only [List.nil_append, List.cons.injEq, KeyEvent.mk.injEq] at order
      rcases order with ⟨⟨rfl, rfl, rfl⟩, rfl⟩
      cases outcome with
      | @issued _ id value _ session _ caller given issuedAt signed =>
        refine ⟨session, id, caller, signed, onCalendar, issuedAt, ?_, ?_⟩
        · exact run.unrepeated.spent_rest given
        · have stored : (stores.keys.put (ownedKey config session id request)).keys.contains
              (session.subjectId, id) = true := contains_put.mpr (.inl ⟨rfl, rfl⟩)
          simpa [Stores.withKeys] using stored
      | loggedIn other => exact absurd api other
    · simp only [List.cons_append, List.cons.injEq] at order
      rcases order with ⟨rfl, rfl⟩
      rcases ih rfl with ⟨session, id, caller, signed, timed, issuedAt, spent, stored⟩
      refine ⟨session, id, caller, signed, timed, issuedAt, outcome.spent spent, ?_⟩
      · rw [outcome.contains_iff spent, stored, List.forall_mem_cons, and_comm]

end KeyRun

/-- The token of an API key identifies its owner exactly if it has not expired and the key is
stored. -/
theorem identify_issued_api {key : Key} {value : String} (onCalendar : key.OnCalendar)
    (own : key.issuer = config.issuer) (issuedAt : key.issuedAt.isSome)
    (api : key.keyType = .api) (compared : key.LastsUntil 0)
    (signed : config.tokenizer.issue key = .ok value) (principal : Principal) :
    (((inMemoryServices numbered config).identify now value).perform stores).1 = .ok principal ↔
      principal = key.principal ∧ key.LastsUntil now.seconds ∧
        stores.keys.keys.contains (key.subjectId, key.id) = true := by
  rcases config.tokenizer.parse_issued_api onCalendar own issuedAt api compared signed with
    ⟨read, id, typed, subjectId, subject, parsed⟩
  have names : read.principal = key.principal := by
    rw [Key.principal, Key.principal, subjectId, subject]
  rw [perform_identify, parsed now]
  by_cases valid : key.LastsUntil now.seconds
  · rw [if_pos valid]
    simp only [principalOf, typed, id, subjectId, names]
    rcases stores.keys.keys.contains (key.subjectId, key.id) with _ | _
    · simp
    · simp [valid, eq_comm]
  · rw [if_neg valid]
    simp [valid]

/-- The life of API keys along every run.  Every stored key is an API key under its owner and its
id.  The token of an API key that expires never, or not before 1970, identifies its owner as long as
it has not expired, its owner has not revoked the key since it was issued, and nobody has presented
another token that says of the key that it has expired; and it never identifies anybody else. -/
theorem api_key_identifies_iff (run : KeyRun numbered config events stores) :
    Keyed stores.keys ∧
      ∀ (since before : List KeyEvent) (issuing : Instant) (login : String) (request : Key)
        (token : Token),
        events = since ++ ⟨issuing, .issue login request, .ok (.token token)⟩ :: before →
        request.keyType = .api → request.LastsUntil 0 →
        ∃ session id, config.tokenizer.parse issuing login = .ok session ∧
          session.keyType = .access ∧
          config.tokenizer.issue (ownedKey config session id request) = .ok token.value ∧
          ∀ now, (∀ event ∈ since, ¬now.before event.now) → ∀ principal,
            (((inMemoryServices numbered config).identify now token.value).perform stores).1 =
                .ok principal ↔
              principal = session.principal ∧ request.LastsUntil now.seconds ∧
              (∀ event ∈ since, ¬event.Revokes config session.subjectId id) ∧
              ∀ event ∈ since, ∀ other, other ≠ token.value →
                ¬event.Expires config session.subjectId id other := by
  refine ⟨run.keyed, ?_⟩
  intro since before issuing login request token order api compared
  rcases run.stored_iff order api with
    ⟨session, id, caller, signed, onCalendar, issuedAt, -, stored⟩
  rcases sessionOf_eq_ok_iff.mp caller with ⟨parsed, access, -⟩
  refine ⟨session, id, parsed, access, signed, ?_⟩
  intro now latest principal
  have timed : (ownedKey config session id request).OnCalendar :=
    ⟨onCalendar.issuedAt, onCalendar.expiresAt⟩
  rcases config.tokenizer.parse_issued_api timed rfl issuedAt api compared signed with
    ⟨read, -, -, -, -, reading⟩
  refine (identify_issued_api timed rfl issuedAt api compared signed principal).trans ?_
  refine and_congr_right fun _ => and_congr_right fun lasts => stored.trans ?_
  constructor
  · intro kept
    refine ⟨fun event mem revoked => kept event mem (.inl revoked), ?_⟩
    exact fun event mem other _ expired => kept event mem (.inr ⟨other, expired⟩)
  · rintro ⟨unrevoked, unexpired⟩ event mem (revoked | ⟨other, presented, expired⟩)
    · exact unrevoked event mem revoked
    · by_cases own : other = token.value
      · -- The token itself told then that it had expired, and expires later than now.
        subst own
        have earlier := Instant.seconds_le_of_not_before (latest event mem)
        have valid : (ownedKey config session id request).LastsUntil event.now.seconds :=
          lasts.of_le earlier
        rw [reading event.now, if_pos valid] at expired
        cases expired
      · exact unexpired event mem other own ⟨presented, expired⟩

theorem KeyRun.of_performed (run : KeyRun numbered config events stores)
    (onCalendar : call.OnCalendar)
    (performed : (call.run (inMemoryServices numbered config) now).perform stores =
      (answer, after)) : KeyRun numbered config (⟨now, call, answer⟩ :: events) after := by
  have next := run.call now call onCalendar
  rwa [performed] at next

/-! ### A key that a stray token removes -/

/-- The moment after the login of alice. -/
def afterDawn : Instant :=
  { seconds := 1, nanos := 0 }

/-- The request for an API key that never expires. -/
def lastingRequest : Key :=
  { id := ""
    keyType := .api
    issuer := ""
    subjectId := ""
    subject := ""
    issuedAt := some dawn
    expiresAt := none }

/-- The first API key of alice. -/
def aliceKey : Key :=
  ownedKey plainConfig aliceClaims.toKey "n" lastingRequest

/-- The stores in which the first API key of alice has been issued. -/
def keyedStores : Stores TupleStore :=
  { policies := TupleStore.empty
    keys := KeyStore.empty.put aliceKey
    ids := { asked := 1 } }

/-- Claims of nobody's making that name the first API key of alice and expire with the first
second. -/
def strayClaims : Claims :=
  { jti := "n"
    iss := plainConfig.issuer
    iat := 0
    sub := ""
    subjectId := "alice"
    keyType := .api
    exp := some 0 }

/-- The token with the stray claims. -/
def strayToken : String :=
  plainConfig.tokenizer.sign strayClaims

theorem sessionOf_aliceToken : sessionOf plainConfig dawn aliceToken = .ok aliceClaims.toKey :=
  sessionOf_eq_ok_iff.mpr ⟨parse_aliceToken, rfl, by decide⟩

/-- The stray token is read as the expired first API key of alice. -/
theorem parse_strayToken :
    plainConfig.tokenizer.parse afterDawn strayToken = .error (.apiKeyExpired "n" "alice") := by
  have bounded : strayClaims.Bounded := by
    refine ⟨by decide, ?_⟩
    rintro expiry ⟨⟩
    decide
  rw [strayToken, Tokenizer.parse_sign_of_bounded _ bounded rfl, Tokenizer.redeem_of_api _ rfl]
  rfl

theorem lastingRequest_onCalendar : lastingRequest.OnCalendar where
  issuedAt := by
    rintro time ⟨⟩
    decide
  expiresAt := by
    rintro time ⟨⟩

/-- The run in which alice is issued an API key. -/
theorem keyRun_aliceKey :
    ∃ value, plainConfig.tokenizer.issue aliceKey = .ok value ∧
      KeyRun tally plainConfig [⟨dawn, .issue aliceToken lastingRequest, .ok (.token { value })⟩]
        keyedStores := by
  have timed : aliceKey.issuedAt.isSome := rfl
  rcases plainConfig.tokenizer.exists_issued timed with ⟨value, signed⟩
  refine ⟨value, signed, ?_⟩
  have start : KeyRun tally plainConfig [] { policies := TupleStore.empty } :=
    .start rfl reliable_tally.distinct
  have given : ({ policies := TupleStore.empty } : Stores TupleStore).ids.given tally 0 =
      some "n" := rfl
  have issued := perform_issueApiKey sessionOf_aliceToken given rfl signed
  exact start.of_performed lastingRequest_onCalendar (perform_issueCall rfl rfl issued)

/-- The token of alice identifies her after it is issued. -/
theorem api_key_identifies_alice :
    ∃ value, KeyRun tally plainConfig
        [⟨dawn, .issue aliceToken lastingRequest, .ok (.token { value })⟩] keyedStores ∧
      (((inMemoryServices tally plainConfig).identify afterDawn value).perform keyedStores).1 =
        .ok { id := "alice", email := "" } := by
  rcases keyRun_aliceKey with ⟨value, -, run⟩
  rcases (api_key_identifies_iff run).2 [] [] dawn aliceToken lastingRequest { value } rfl rfl
    (by rintro expiry ⟨⟩) with ⟨session, id, parsed, -, -, identifies⟩
  obtain rfl : aliceClaims.toKey = session := Except.ok.inj (parse_aliceToken.symm.trans parsed)
  refine ⟨value, run, (identifies afterDawn (by simp) _).mpr ⟨rfl, ?_, by simp, by simp⟩⟩
  rintro expiry ⟨⟩

/-- A key that never expires and that nobody has revoked does not identify its owner any more, after
a stray token was presented that says of it that it has expired. -/
theorem api_key_lost_to_stray_token :
    ∃ value stores, KeyRun tally plainConfig
        [⟨afterDawn, .identify strayToken, .error (.failure .apiKeyExpired)⟩,
          ⟨dawn, .issue aliceToken lastingRequest, .ok (.token { value })⟩] stores ∧
      plainConfig.tokenizer.issue aliceKey = .ok value ∧ lastingRequest.expiresAt = none ∧
      (((inMemoryServices tally plainConfig).identify afterDawn value).perform stores).1 =
        .error (.failure .unauthenticated) := by
  rcases keyRun_aliceKey with ⟨value, signed, run⟩
  have presented : ((KeyCall.identify strayToken).run (inMemoryServices tally plainConfig)
      afterDawn).perform keyedStores = _ := perform_identifyCall parse_strayToken
  refine ⟨value, _, run.of_performed trivial presented, signed, rfl, ?_⟩
  have timed : aliceKey.OnCalendar :=
    ⟨lastingRequest_onCalendar.issuedAt, lastingRequest_onCalendar.expiresAt⟩
  rcases plainConfig.tokenizer.parse_issued_api timed rfl rfl rfl (by rintro expiry ⟨⟩) signed with
    ⟨read, id, typed, subjectId, -, parsed⟩
  have valid : aliceKey.LastsUntil afterDawn.seconds := by
    rintro expiry ⟨⟩
  rw [perform_identify, parsed afterDawn, if_pos valid]
  simp only [principalOf, typed, id, subjectId]
  rfl

end RelationAuth.Service
