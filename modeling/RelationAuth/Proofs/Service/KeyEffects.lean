import RelationAuth.Proofs.Identity.Expiry
import RelationAuth.Proofs.Service.Effects

/-!
# What the operations on keys do

Issuing an API key stores it, revoking removes one, and so does presenting a token that says of a
key that it has expired.  Nothing else changes the stored keys.
-/

namespace RelationAuth

/-- A store with a key put under its subject and id. -/
def Identity.KeyStore.put (store : KeyStore) (key : Key) : KeyStore :=
  { keys := store.keys.insert (key.subjectId, key.id) key }

namespace Service

open Groups Identity Policy

/-- An operation on keys. -/
inductive KeyCall where
  | issue (token : String) (key : Key)
  | revoke (token id : String)
  | retrieve (token id : String)
  | identify (token : String)

/-- What an operation on keys answers. -/
inductive KeyAnswer where
  | token (token : Token)
  | revoked
  | key (key : Key)
  | principal (principal : Principal)

/-- What an operation does. -/
def KeyCall.run {σ : Type} (services : Services σ) (now : Instant) :
    KeyCall → Action σ ServiceError KeyAnswer
  | issue token key => do
    return .token (← services.issue now token key)
  | revoke token id => do
    services.revoke now token id
    return .revoked
  | retrieve token id => do
    return .key (← services.retrieveKey now token id)
  | identify token => do
    return .principal (← services.identify now token)

/-- The key of a caller who is logged in, if a token is the token of such a key. -/
def sessionOf (config : TokenConfig) (now : Instant) (token : String) :
    Except ServiceError Key :=
  match config.tokenizer.parse now token with
  | .error cause => .error (.identity cause)
  | .ok key =>
    if key.keyType ≠ .access ∨ key.subjectId = "" then .error .unauthenticated else .ok key

/-- The API key that is issued to the caller of a session on a request. -/
def ownedKey (config : TokenConfig) (session : Key) (id : String) (request : Key) : Key :=
  { request with
    id
    issuer := config.issuer
    subjectId := session.subjectId
    subject := session.subject }

variable (numbered : Nat → String) (config : TokenConfig) (now : Instant)
  (stores : Stores TupleStore)

/-- The outcomes of operations on keys.  Only three of them change the stored keys. -/
inductive KeyOutcome : KeyCall → Outcome KeyAnswer → Prop where
  | issued {login id value : String} {request session : Key} (api : request.keyType = .api)
      (caller : sessionOf config now login = .ok session)
      (given : stores.ids.given numbered 0 = some id)
      (issuedAt : request.issuedAt.isSome)
      (signed : config.tokenizer.issue (ownedKey config session id request) = .ok value) :
      KeyOutcome (.issue login request) (.ok (.token { value }),
        (stores.withIds stores.ids.rest).withKeys
          (stores.keys.put (ownedKey config session id request)))
  | unissued {login : String} {request : Key} (stop : Stop ServiceError) {ids : IdSource}
      (api : request.keyType = .api) (source : ids = stores.ids ∨ ids = stores.ids.rest) :
      KeyOutcome (.issue login request) (.error stop, stores.withIds ids)
  | loggedIn {login : String} {request : Key} {answer : Except (Stop ServiceError) KeyAnswer}
      (other : request.keyType ≠ .api) : KeyOutcome (.issue login request) (answer, stores)
  | revoked {login id : String} {session : Key}
      (caller : sessionOf config now login = .ok session) :
      KeyOutcome (.revoke login id)
        (.ok .revoked, stores.withKeys (stores.keys.remove session.subjectId id))
  | unrevoked {login id : String} (stop : Stop ServiceError) :
      KeyOutcome (.revoke login id) (.error stop, stores)
  | retrieved {login id : String} (answer : Except (Stop ServiceError) KeyAnswer) :
      KeyOutcome (.retrieve login id) (answer, stores)
  | expired {token id owner : String}
      (parsed : config.tokenizer.parse now token = .error (.apiKeyExpired id owner)) :
      KeyOutcome (.identify token)
        (.error (.failure .apiKeyExpired), stores.withKeys (stores.keys.remove owner id))
  | identified {token : String} {answer : Except (Stop ServiceError) KeyAnswer}
      (unexpired : ∀ id owner,
        config.tokenizer.parse now token ≠ .error (.apiKeyExpired id owner)) :
      KeyOutcome (.identify token) (answer, stores)

variable {numbered config now stores}

/-- A session is opened by an access token of somebody. -/
theorem sessionOf_eq_ok_iff {token : String} {session : Key} :
    sessionOf config now token = .ok session ↔
      config.tokenizer.parse now token = .ok session ∧ session.keyType = .access ∧
        session.subjectId ≠ "" := by
  rcases parsed : config.tokenizer.parse now token with cause | key
  · simp [sessionOf, parsed]
  · simp only [sessionOf, parsed, Except.ok.injEq]
    constructor
    · intro accepted
      split at accepted
      · cases accepted
      · rename_i login
        obtain rfl : key = session := Except.ok.inj accepted
        simpa using login
    · rintro ⟨rfl, access, named⟩
      rw [if_neg (by simp [access, named])]

/-- Logging in reads the token and nothing else, whatever the services are made of. -/
theorem perform_login_any {σ : Type} (services : Services σ) (now : Instant) (token : String)
    (state : σ) :
    (services.login now token).perform state =
      ((sessionOf services.config now token).mapError .failure, state) := by
  have reader : services.tokenizer = services.config.tokenizer := rfl
  simp only [Services.login, Services.parseToken, reader, Action.perform_bind,
    Action.perform_mapFailure, Action.perform_ofExcept, sessionOf]
  rcases services.config.tokenizer.parse now token with cause | key
  · rfl
  · simp only [mapError_ok]
    split <;> rfl

theorem perform_login_over {α : Type} {agent : PolicyAgent α} {stores : Stores α}
    (token : String) :
    ((servicesOver agent numbered config).login now token).perform stores =
      ((sessionOf config now token).mapError .failure, stores) :=
  perform_login_any (servicesOver agent numbered config) now token stores

theorem perform_login (token : String) :
    ((inMemoryServices numbered config).login now token).perform stores =
      ((sessionOf config now token).mapError .failure, stores) :=
  perform_login_over token

section AnyAgent

variable {α : Type} {agent : PolicyAgent α} {stores : Stores α}

/-- A revocation removes the caller's own key, if there is one. -/
theorem perform_revoke (token id : String) :
    ((servicesOver agent numbered config).revoke now token id).perform stores =
      match sessionOf config now token with
      | .ok session => (.ok (), stores.withKeys (stores.keys.remove session.subjectId id))
      | .error cause => (.error (.failure cause), stores) := by
  rw [Services.revoke, Action.perform_bind, perform_login_over]
  rcases sessionOf config now token with cause | session <;> rfl

theorem perform_retrieveKey (token id : String) :
    ((servicesOver agent numbered config).retrieveKey now token id).perform stores =
      match sessionOf config now token with
      | .ok session =>
        ((stores.keys.retrieve session.subjectId id).mapError fun cause =>
          .failure (.identity cause), stores)
      | .error cause => (.error (.failure cause), stores) := by
  rw [Services.retrieveKey, Action.perform_bind, perform_login_over]
  rcases sessionOf config now token with cause | session
  · rfl
  · simp only [mapError_ok, servicesOver, KeyRepository.onPart, KeyRepository.inMemory,
      Action.perform_mapFailure, Action.perform_onPart, Action.perform_query]
    rcases stores.keys.retrieve session.subjectId id with cause | key <;> rfl

end AnyAgent

theorem revokeCall_outcome (login id : String) :
    KeyOutcome numbered config now stores (.revoke login id)
      (((KeyCall.revoke login id).run (inMemoryServices numbered config) now).perform stores) := by
  simp only [KeyCall.run, inMemoryServices, Action.perform_bind, perform_revoke]
  rcases caller : sessionOf config now login with cause | session
  · exact .unrevoked _
  · exact .revoked caller

theorem retrieveCall_outcome (login id : String) :
    KeyOutcome numbered config now stores (.retrieve login id)
      (((KeyCall.retrieve login id).run (inMemoryServices numbered config) now).perform
        stores) := by
  simp only [KeyCall.run, inMemoryServices, Action.perform_bind, perform_retrieveKey]
  rcases sessionOf config now login with cause | session
  · exact .retrieved _
  · simp only
    rcases stores.keys.retrieve session.subjectId id with cause | key <;> exact .retrieved _

/-- A token that says of a key that it has expired removes the key. -/
theorem perform_identifyCall {token : String} {id owner : String}
    (parsed : config.tokenizer.parse now token = .error (.apiKeyExpired id owner)) :
    ((KeyCall.identify token).run (inMemoryServices numbered config) now).perform stores =
      (.error (.failure .apiKeyExpired), stores.withKeys (stores.keys.remove owner id)) := by
  rw [KeyCall.run, Action.perform_bind, perform_identify, parsed]

theorem identifyCall_outcome (token : String) :
    KeyOutcome numbered config now stores (.identify token)
      (((KeyCall.identify token).run (inMemoryServices numbered config) now).perform stores) := by
  simp only [KeyCall.run, Action.perform_bind, perform_identify]
  rcases parsed : config.tokenizer.parse now token with cause | key
  · cases cause with
    | apiKeyExpired id owner => exact .expired parsed
    | _ => exact .identified (by simp [parsed])
  · have unexpired : ∀ id owner,
        config.tokenizer.parse now token ≠ .error (.apiKeyExpired id owner) := by
      simp [parsed]
    rcases speaks : principalOf stores.keys key with cause | principal
    · simp only [speaks]
      exact .identified unexpired
    · simp only [speaks]
      exact .identified unexpired

theorem perform_newId_over {α : Type} {agent : PolicyAgent α} {stores : Stores α} :
    ((servicesOver agent numbered config).newId).perform stores =
      (match stores.ids.given numbered 0 with
        | some id => .ok id
        | none => .error (.failure (.idGeneration "no entropy")),
        stores.withIds stores.ids.rest) := by
  exact congrArg (fun outcome => (outcome.1, stores.withIds outcome.2)) IdSource.perform_next

theorem perform_newId :
    ((inMemoryServices numbered config).newId).perform stores =
      (match stores.ids.given numbered 0 with
        | some id => .ok id
        | none => .error (.failure (.idGeneration "no entropy")),
        stores.withIds stores.ids.rest) :=
  perform_newId_over

theorem perform_saveKey_over {α : Type} {agent : PolicyAgent α} {stores : Stores α} (key : Key) :
    ((servicesOver agent numbered config).keys.save key).perform stores =
      match stores.keys.save key with
      | .ok keys => (.ok key.id, stores.withKeys keys)
      | .error cause => (.error (.failure cause), stores) := by
  simp only [servicesOver, KeyRepository.onPart, KeyRepository.inMemory,
    Action.perform_onPart, Action.perform_bind, Action.perform_change]
  rcases stores.keys.save key with cause | keys <;> rfl

theorem perform_saveKey (key : Key) :
    ((inMemoryServices numbered config).keys.save key).perform stores =
      match stores.keys.save key with
      | .ok keys => (.ok key.id, stores.withKeys keys)
      | .error cause => (.error (.failure cause), stores) :=
  perform_saveKey_over key

theorem issueApiKey_eq (login : String) (request : Key) :
    (inMemoryServices numbered config).issueApiKey now login request = (do
      let session ← (inMemoryServices numbered config).login now login
      let id ← (inMemoryServices numbered config).newId.mapFailure .identity
      let _ ← ((inMemoryServices numbered config).keys.save
        (ownedKey config session id request)).mapFailure .identity
      return { value := ← (Action.ofExcept (config.tokenizer.issue
        (ownedKey config session id request))).mapFailure .identity }) :=
  rfl

/-- Issuing an API key stores it under the owner of the session and the next id, where no key is
stored yet. -/
theorem perform_issueApiKey {login id value : String} {request session : Key}
    (caller : sessionOf config now login = .ok session)
    (given : stores.ids.given numbered 0 = some id)
    (free : stores.keys.keys.contains (session.subjectId, id) = false)
    (signed : config.tokenizer.issue (ownedKey config session id request) = .ok value) :
    ((inMemoryServices numbered config).issueApiKey now login request).perform stores =
      (.ok { value }, (stores.withIds stores.ids.rest).withKeys
        (stores.keys.put (ownedKey config session id request))) := by
  have saved : (stores.withIds stores.ids.rest).keys.save (ownedKey config session id request) =
      .ok (stores.keys.put (ownedKey config session id request)) := by
    simp [KeyStore.save, KeyStore.put, ownedKey, Stores.withIds, free]
  simp only [issueApiKey_eq, Action.perform_bind, Action.perform_mapFailure, perform_login, caller,
    mapError_ok, perform_newId, given, perform_saveKey, saved, Action.perform_ofExcept, signed]
  rfl

/-- Without a session or an id, or where a key is stored already, issuing an API key stores
nothing. -/
theorem issueApiKey_stops {login : String} (request : Key)
    (taken : ∀ session id, sessionOf config now login = .ok session →
      stores.ids.given numbered 0 = some id →
      stores.keys.keys.contains (session.subjectId, id) = true) :
    ∃ cause ids, (ids = stores.ids ∨ ids = stores.ids.rest) ∧
      ((inMemoryServices numbered config).issueApiKey now login request).perform stores =
        (.error (.failure cause), stores.withIds ids) := by
  rw [issueApiKey_eq, Action.perform_bind, perform_login]
  rcases caller : sessionOf config now login with cause | session
  · exact ⟨cause, stores.ids, .inl rfl, rfl⟩
  simp only [mapError_ok, Action.perform_bind, Action.perform_mapFailure, perform_newId]
  rcases given : stores.ids.given numbered 0 with _ | id
  · exact ⟨_, _, .inr rfl, rfl⟩
  have saved : (stores.withIds stores.ids.rest).keys.save (ownedKey config session id request) =
      .error .keyExists := by
    simp [KeyStore.save, ownedKey, Stores.withIds, taken session id caller given]
  refine ⟨.identity .keyExists, _, .inr rfl, ?_⟩
  simp only [mapError_ok, perform_saveKey, saved]
  rfl

theorem perform_issueCall {login : String} {request : Key} {token : Token}
    {left : Stores TupleStore} (api : request.keyType = .api) (issuedAt : request.issuedAt.isSome)
    (issued : ((inMemoryServices numbered config).issueApiKey now login request).perform stores =
      (.ok token, left)) :
    ((KeyCall.issue login request).run (inMemoryServices numbered config) now).perform stores =
      (.ok (.token token), left) := by
  rcases Option.isSome_iff_exists.mp issuedAt with ⟨moment, known⟩
  simp only [KeyCall.run, Services.issue, known, api, Action.perform_bind,
    Action.perform_mapFailure, issued]
  rfl

/-- An issue of an API key keeps the key and gives its token, or keeps nothing. -/
theorem issueCall_outcome (login : String) {request : Key} (api : request.keyType = .api) :
    KeyOutcome numbered config now stores (.issue login request)
      (((KeyCall.issue login request).run (inMemoryServices numbered config) now).perform
        stores) := by
  rcases issuedAt : request.issuedAt with _ | moment
  · simp only [KeyCall.run, Services.issue, issuedAt]
    exact .unissued _ api (.inl rfl)
  have timed : request.issuedAt.isSome := by simp [issuedAt]
  by_cases free : ∃ session id, sessionOf config now login = .ok session ∧
      stores.ids.given numbered 0 = some id ∧
      stores.keys.keys.contains (session.subjectId, id) = false
  · rcases free with ⟨session, id, caller, given, free⟩
    have ownedTimed : (ownedKey config session id request).issuedAt.isSome := timed
    rcases config.tokenizer.exists_issued ownedTimed with ⟨value, signed⟩
    rw [perform_issueCall api timed (perform_issueApiKey caller given free signed)]
    exact .issued api caller given timed signed
  · have taken : ∀ session id, sessionOf config now login = .ok session →
        stores.ids.given numbered 0 = some id →
        stores.keys.keys.contains (session.subjectId, id) = true := by
      intro session id caller given
      rcases held : stores.keys.keys.contains (session.subjectId, id) with _ | _
      · exact absurd ⟨session, id, caller, given, held⟩ free
      · rfl
    rcases issueApiKey_stops request taken with ⟨cause, ids, source, outcome⟩
    simp only [KeyCall.run, Services.issue, issuedAt, api, Action.perform_bind,
      Action.perform_mapFailure, outcome]
    exact .unissued _ api source

section AnyServices

variable {σ : Type} {services : Services σ} {state : σ}

theorem laterBy_leaves (moment : Instant) (span : Nat) :
    ((laterBy moment span).perform state).2 = state := by
  unfold laterBy
  split <;> rfl

theorem issueToken_leaves (key : Key) : ((services.issueToken key).perform state).2 = state := by
  simp [Services.issueToken]

theorem issueLogin_leaves (key : Key) (issuedAt : Instant) :
    ((services.issueLogin key issuedAt).perform state).2 = state := by
  refine Action.perform_bind_leaves (laterBy_leaves _ _) fun access => ?_
  refine Action.perform_bind_leaves (laterBy_leaves _ _) fun refresh => ?_
  refine Action.perform_bind_leaves (issueToken_leaves _) fun value => ?_
  exact Action.perform_bind_leaves (issueToken_leaves _) fun _ => rfl

theorem renewLogin_leaves (login : String) (key : Key) (issuedAt : Instant) :
    ((services.renewLogin now login key issuedAt).perform state).2 = state := by
  have parses : ((services.parseToken now login).perform state).2 = state := by
    simp [Services.parseToken]
  refine Action.perform_bind_leaves parses fun session => ?_
  simp only
  split
  · rfl
  · exact issueLogin_leaves _ _

/-- Issuing a key of another type than an API key changes nothing. -/
theorem issue_leaves (login : String) {request : Key} (other : request.keyType ≠ .api) :
    (((KeyCall.issue login request).run services now).perform state).2 = state := by
  refine Action.perform_bind_leaves ?_ fun _ => rfl
  rcases issuedAt : request.issuedAt with _ | moment
  · simp only [Services.issue, issuedAt]
    rfl
  rcases kind : request.keyType with _ | _ | _ | _
  · simp only [Services.issue, issuedAt, kind]
    exact issueLogin_leaves _ _
  · simp only [Services.issue, issuedAt, kind]
    exact renewLogin_leaves _ _ _
  · simp only [Services.issue, issuedAt, kind]
    refine Action.perform_bind_leaves (laterBy_leaves _ _) fun expiry => ?_
    exact Action.perform_bind_leaves (issueToken_leaves _) fun _ => rfl
  · exact absurd kind other

end AnyServices

variable (numbered config now stores)

/-- Every operation on keys has one of the outcomes. -/
theorem KeyCall.run_outcome (call : KeyCall) :
    KeyOutcome numbered config now stores call
      ((call.run (inMemoryServices numbered config) now).perform stores) := by
  cases call with
  | issue login request =>
    by_cases api : request.keyType = .api
    · exact issueCall_outcome login api
    · have leaves : (((KeyCall.issue login request).run (inMemoryServices numbered config)
          now).perform stores).2 = stores := issue_leaves login api
      generalize ((KeyCall.issue login request).run (inMemoryServices numbered config) now).perform
        stores = outcome at leaves ⊢
      rcases outcome with ⟨answer, after⟩
      obtain rfl : after = stores := leaves
      exact .loggedIn api
  | revoke login id => exact revokeCall_outcome login id
  | retrieve login id => exact retrieveCall_outcome login id
  | identify token => exact identifyCall_outcome token

end Service

end RelationAuth
