import RelationAuth.Service.Services

/-!
# Authentication

Login keys are issued freely to the services that log users in: an access key together with a
refresh key, or a recovery key.  A refresh token renews a login for the same principal, and an
access token lets its principal issue and revoke API keys.
-/

namespace RelationAuth.Service

open Groups Identity Policy

namespace Services

variable {σ : Type} (services : Services σ)

/-- The access key of a caller who is logged in. -/
def login (now : Instant) (token : String) : Action σ ServiceError Key := do
  let key ← services.parseToken now token
  if key.keyType ≠ .access ∨ key.subjectId = "" then Action.fail .unauthenticated
  return key

/-- Issue an API key to a caller who is logged in: whatever the request says, the key belongs to the
caller. -/
def issueApiKey (now : Instant) (token : String) (key : Key) : Action σ ServiceError Token := do
  let caller ← services.login now token
  let id ← services.newId.mapFailure .identity
  let owned : Key :=
    { key with
      id
      issuer := services.config.issuer
      subjectId := caller.subjectId
      subject := caller.subject }
  let _ ← (services.keys.save owned).mapFailure .identity
  return { value := ← services.issueToken owned }

/-- Issue a recovery key: it lasts as long as the configuration says. -/
def issueRecoveryKey (key : Key) (issuedAt : Instant) : Action σ ServiceError Token := do
  let expiry ← laterBy issuedAt services.config.recoveryDuration
  return {
    value := ← services.issueToken
      { key with issuer := services.config.issuer, expiresAt := some expiry } }

/-- Issue an access key and a refresh key that speak for the subject of a key. -/
def issueLogin (key : Key) (issuedAt : Instant) : Action σ ServiceError Token := do
  let accessExpiry ← laterBy issuedAt services.config.loginDuration
  let refreshExpiry ← laterBy issuedAt services.config.refreshDuration
  let issuer := services.config.issuer
  let access ← services.issueToken
    { key with keyType := .access, issuer, expiresAt := some accessExpiry }
  let refresh ← services.issueToken
    { key with keyType := .refresh, issuer, expiresAt := some refreshExpiry }
  return Token.withRefresh access refresh

/-- Issue a login to the principal of a refresh token.  The request says when it begins and under
which id; the subject and the type it names have no say. -/
def renewLogin (now : Instant) (token : String) (key : Key) (issuedAt : Instant) :
    Action σ ServiceError Token := do
  let refresh ← services.parseToken now token
  if refresh.keyType ≠ .refresh ∨ refresh.subjectId = "" then Action.fail .unauthenticated
  services.issueLogin
    { id := key.id
      keyType := .access
      issuer := ""
      subjectId := refresh.subjectId
      subject := refresh.subject
      issuedAt := some issuedAt
      expiresAt := none }
    issuedAt

/-- Issue a key of the type that is asked for, from the time of issue that is given. -/
def issue (now : Instant) (token : String) (key : Key) : Action σ ServiceError Token :=
  match key.issuedAt with
  | none => Action.fail .invalidKeyIssuedAt
  | some issuedAt =>
    match key.keyType with
    | .api => (services.issueApiKey now token key).mapFailure .issueUser
    | .recovery => services.issueRecoveryKey key issuedAt
    | .refresh => services.renewLogin now token key issuedAt
    | .access => services.issueLogin key issuedAt

/-- Remove an API key of the caller. -/
def revoke (now : Instant) (token id : String) : Action σ ServiceError Unit := do
  let caller ← services.login now token
  (services.keys.remove caller.subjectId id).mapFailure .identity

/-- An API key of the caller. -/
def retrieveKey (now : Instant) (token id : String) : Action σ ServiceError Key := do
  let caller ← services.login now token
  (services.keys.retrieve caller.subjectId id).mapFailure .identity

/-- The principal of an API key, which must not have been revoked. -/
def identifyApiKey (key : Key) : Action σ ServiceError Principal := do
  match ← Action.attempt (services.keys.retrieve key.subjectId key.id) with
  | .ok _ => return key.principal
  | .error .keyNotFound => Action.fail .unauthenticated
  | .error cause => Action.fail (.identity cause)

/-- The principal that a token identifies.  An API key that has expired is removed from its store:
it will never be valid again. -/
def identify (now : Instant) (token : String) : Action σ ServiceError Principal := do
  match services.tokenizer.parse now token with
  | .error (.apiKeyExpired keyId subjectId) =>
    (services.keys.remove subjectId keyId).mapFailure .identity
    Action.fail .apiKeyExpired
  | .error cause => Action.fail (.identity cause)
  | .ok key =>
    match key.keyType with
    | .access | .recovery => return key.principal
    | .api => services.identifyApiKey key
    | .refresh => Action.fail .unauthenticated

end Services

end RelationAuth.Service
