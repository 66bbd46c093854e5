import RelationAuth.Proofs.Service.Confinement

/-!
# Logins renewed

A login is answered with an access token and a refresh token, and whoever shows the refresh token in
time gets the next two.  Every renewal takes the principal from the token that is shown and all else
from its own request, so the principal who logged in is handed on from answer to answer, while the
times start anew with each of them.
-/

namespace RelationAuth

theorem Instant.exists_add {moment : Instant} {span : Nat}
    (represented : represents (moment.seconds + span) = true) :
    ∃ later, moment.add? span = some later ∧ later.seconds = moment.seconds + span := by
  rw [add?, if_pos represented]
  exact ⟨_, rfl, rfl⟩

/-- Between 1970 and a second that the calendar represents, it represents every second. -/
theorem Instant.represents_of_nonneg {second : Int} {span : Nat} (start : 0 ≤ second)
    (represented : represents (second + span) = true) : represents second = true := by
  have first : firstSecond ≤ 0 := by decide
  simp only [represents, Bool.and_eq_true, decide_eq_true_eq] at represented ⊢
  omega

namespace Identity

/-- In settings that pass their check no duration is cut off. -/
theorem TokenConfig.bounded_of_validate {config : TokenConfig} (valid : config.validate = .ok ()) :
    ∀ duration ∈ config.durations, bounded duration.2 = duration.2 := by
  intro duration among
  rcases faultless : config.fault? with _ | fault
  · unfold fault? at faultless
    split_ifs at faultless
    rw [Option.map_eq_none_iff, List.find?_eq_none] at faultless
    have within := faultless duration among
    simp only [decide_eq_true_eq, not_or] at within
    rw [bounded]
    omega
  · rw [validate, faultless] at valid
    cases valid

/-- Whether a token is read as that of a key, unless it has expired. -/
def Tokenizer.ReadsUntilExpiry (tokenizer : Tokenizer) (now : Instant) (token : String)
    (key : Key) : Prop :=
  tokenizer.parse now token = .ok key ∨
    tokenizer.parse now token = .error (.invalidToken .expired)

end Identity

namespace Service

open Identity

/-- A login: the id of its keys, who logs in and when. -/
structure Login where
  id : String
  principal : Principal
  issuedAt : Instant

/-- The login for which a key is issued at a time. -/
def Login.ofKey (key : Key) (issuedAt : Instant) : Login :=
  { id := key.id, principal := key.principal, issuedAt }

namespace Login

/-- The claims of a key that speaks for who logs in and lasts for a number of seconds. -/
def claims (login : Login) (config : TokenConfig) (keyType : KeyType) (span : Nat) : Claims :=
  { jti := login.id
    iss := config.issuer
    iat := login.issuedAt.seconds
    sub := login.principal.email
    subjectId := login.principal.id
    keyType
    exp := some (login.issuedAt.seconds + span) }

/-- The claims of the access token of a login. -/
def accessClaims (login : Login) (config : TokenConfig) : Claims :=
  login.claims config .access config.loginDurationSecs

/-- The claims of the refresh token of a login. -/
def refreshClaims (login : Login) (config : TokenConfig) : Claims :=
  login.claims config .refresh config.refreshDurationSecs

/-- The tokens of a login. -/
def answer (login : Login) (config : TokenConfig) : Token :=
  Token.withRefresh (config.tokenizer.sign (login.accessClaims config))
    (config.tokenizer.sign (login.refreshClaims config))

/-- Whether a login is not from before 1970 and the calendar represents when its keys expire. -/
structure Datable (login : Login) (config : TokenConfig) : Prop where
  start : 0 ≤ login.issuedAt.seconds
  access : Instant.represents (login.issuedAt.seconds + config.loginDurationSecs) = true
  refresh : Instant.represents (login.issuedAt.seconds + config.refreshDurationSecs) = true

variable {login : Login} {config : TokenConfig} {keyType : KeyType} {span : Nat} {now : Instant}

/-- The claims of a login whose expiry is on the calendar are within their bounds. -/
theorem bounded_claims (start : 0 ≤ login.issuedAt.seconds)
    (represented : Instant.represents (login.issuedAt.seconds + span) = true) :
    (login.claims config keyType span).Bounded where
  iat := Instant.isSigned64_of_represents (Instant.represents_of_nonneg start represented)
  exp := by
    rintro expiry ⟨⟩
    exact Instant.isSigned64_of_represents represented

/-- The token of a login is good for its key up to its second of expiry. -/
theorem parse_sign_claims (start : 0 ≤ login.issuedAt.seconds)
    (represented : Instant.represents (login.issuedAt.seconds + span) = true)
    (kind : keyType ≠ .api) :
    config.tokenizer.parse now (config.tokenizer.sign (login.claims config keyType span)) =
      if now.seconds ≤ login.issuedAt.seconds + span then
        .ok (login.claims config keyType span).toKey
      else .error (.invalidToken .expired) := by
  rw [Tokenizer.parse_sign_of_bounded _ (bounded_claims start represented) rfl, Tokenizer.redeem]
  have compared : 0 ≤ login.issuedAt.seconds + span := by omega
  have ends : (login.claims config keyType span).toKey.expiresAt ≠ none := by
    simp [Claims.toKey, claims, Instant.ofSeconds?, represented]
  by_cases late : login.issuedAt.seconds + span < now.seconds
  · have expired : (login.claims config keyType span).expiredAt now.seconds = true := by
      simp [Claims.expiredAt, claims, compared, late]
    have labelled : (login.claims config keyType span).keyType ≠ .api := kind
    rw [if_pos expired, if_neg labelled, if_neg (Int.not_le.mpr late)]
  · have current : ¬(login.claims config keyType span).expiredAt now.seconds = true := by
      simp [Claims.expiredAt, claims, late]
    rw [if_neg current, if_neg (fun endless => ends endless.1), if_pos (Int.not_lt.mp late)]

/-- A signed token of a login is read back until it expires. -/
theorem reads_sign_claims (start : 0 ≤ login.issuedAt.seconds)
    (represented : Instant.represents (login.issuedAt.seconds + span) = true)
    (kind : keyType ≠ .api) :
    config.tokenizer.ReadsUntilExpiry now
      (config.tokenizer.sign (login.claims config keyType span))
      (login.claims config keyType span).toKey := by
  rw [Tokenizer.ReadsUntilExpiry, parse_sign_claims start represented kind]
  exact ite_eq_or_eq _ _ _

theorem Datable.reads_access (datable : login.Datable config) :
    config.tokenizer.ReadsUntilExpiry now (login.answer config).value
      (login.accessClaims config).toKey :=
  reads_sign_claims datable.start datable.access (by decide)

theorem Datable.reads_refresh (datable : login.Datable config) :
    config.tokenizer.ReadsUntilExpiry now
      (config.tokenizer.sign (login.refreshClaims config)) (login.refreshClaims config).toKey :=
  reads_sign_claims datable.start datable.refresh (by decide)

theorem refreshToken?_answer :
    (login.answer config).refreshToken? =
      some (config.tokenizer.sign (login.refreshClaims config)) := by
  simp [answer, Token.withRefresh, Token.refreshToken?]

end Login

section Steps

variable {σ : Type} {services : Services σ} {state : σ} {now : Instant}

theorem perform_issueToken_of_key {key : Key} {keyType : KeyType} {moment expiry : Instant}
    {span : Nat} (issued : key.issuedAt = some moment)
    (ends : expiry.seconds = moment.seconds + span) :
    (services.issueToken { key with
      keyType, issuer := services.config.issuer, expiresAt := some expiry }).perform state =
        (.ok (services.config.tokenizer.sign
          ((Login.ofKey key moment).claims services.config keyType span)), state) := by
  refine issueToken_eq_ok_iff.mpr ⟨Tokenizer.issue_of_described _ ?_, rfl⟩
  refine Claims.ofKey_eq_ok_iff.mpr ⟨moment, issued, ?_⟩
  simp [Login.claims, Login.ofKey, Key.principal, ends]

/-- Issuing a login answers with its tokens, as far as the calendar reaches. -/
theorem perform_issueLogin {key : Key} {moment : Instant}
    (valid : services.config.validate = .ok ()) (issued : key.issuedAt = some moment)
    (datable : (Login.ofKey key moment).Datable services.config) :
    (services.issueLogin key moment).perform state =
      (.ok ((Login.ofKey key moment).answer services.config), state) := by
  have accessSpan : services.config.loginDuration = services.config.loginDurationSecs :=
    TokenConfig.bounded_of_validate valid ("login_duration_secs", _) (.head _)
  have refreshSpan : services.config.refreshDuration = services.config.refreshDurationSecs :=
    TokenConfig.bounded_of_validate valid ("refresh_duration_secs", _) (.tail _ (.head _))
  rcases Instant.exists_add datable.access with ⟨accessExpiry, accessAdded, accessEnd⟩
  rcases Instant.exists_add datable.refresh with ⟨refreshExpiry, refreshAdded, refreshEnd⟩
  change moment.add? _ = _ at accessAdded refreshAdded
  rw [Services.issueLogin, accessSpan, refreshSpan,
    Action.perform_bind_ok (laterBy_eq_ok_iff.mpr ⟨accessAdded, rfl⟩),
    Action.perform_bind_ok (laterBy_eq_ok_iff.mpr ⟨refreshAdded, rfl⟩)]
  simp only
  rw [Action.perform_bind_ok (perform_issueToken_of_key issued accessEnd),
    Action.perform_bind_ok (perform_issueToken_of_key issued refreshEnd)]
  rfl

/-- A refresh token that is shown in time renews the login of its principal. -/
theorem perform_renewLogin {source : String} {session request : Key} {principal : Principal}
    {moment : Instant} (valid : services.config.validate = .ok ())
    (parsed : services.tokenizer.parse now source = .ok session) (kind : session.keyType = .refresh)
    (named : session.subjectId ≠ "") (speaks : session.principal = principal)
    (datable : (Login.mk request.id principal moment).Datable services.config) :
    (services.renewLogin now source request moment).perform state =
      (.ok ((Login.mk request.id principal moment).answer services.config), state) := by
  subst speaks
  rw [Services.renewLogin, Action.perform_bind_ok (parseToken_eq_ok_iff.mpr ⟨parsed, rfl⟩)]
  simp only [kind, named, ne_eq, not_true_eq_false, or_self, if_false]
  exact perform_issueLogin valid rfl datable

end Steps

section Refusals

variable {σ : Type} {services : Services σ} {now : Instant} {source : String} {key : Key}
  (read : services.tokenizer.ReadsUntilExpiry now source key)

include read

theorem parseToken_bind_refuses {α : Type} {next : Key → Action σ ServiceError α}
    (refuses : (next key).Refuses) : (services.parseToken now source >>= next).Refuses := by
  rcases read with parsed | expired
  · exact .of_answer (fun _ => parseToken_eq_ok_iff.mpr ⟨parsed, rfl⟩) refuses
  · refine Action.Refuses.bind fun _ => ⟨.identity (.invalidToken .expired), ?_⟩
    rw [Services.parseToken, expired]
    rfl

/-- A refresh token identifies nobody, expired or not. -/
theorem identify_refuses (refresh : key.keyType = .refresh) :
    (services.identify now source).Refuses := by
  unfold Services.identify
  rcases read with parsed | expired
  · rw [parsed]
    simp only [refresh]
    exact Action.refuses_fail
  · rw [expired]
    exact Action.refuses_fail

theorem login_refuses (other : key.keyType ≠ .access) : (services.login now source).Refuses := by
  refine parseToken_bind_refuses read ?_
  simp only [if_pos (Or.inl other)]
  exact Action.refuses_fail.bind

theorem renewal_refuses (other : key.keyType ≠ .refresh) {request : Key}
    (kind : request.keyType = .refresh) : (services.issue now source request).Refuses := by
  unfold Services.issue
  rw [kind]
  rcases request.issuedAt with _ | moment
  · exact Action.refuses_fail
  · refine parseToken_bind_refuses read ?_
    simp only [if_pos (Or.inl other)]
    exact Action.refuses_fail.bind

end Refusals

/-- Whether services honour a token as the answer to a login.  Its access token and its refresh
token say what the login says and when they expire; the access token speaks for who has logged in
until then, and renews no login; and the refresh token speaks for nobody. -/
structure Services.Honours {σ : Type} (services : Services σ) (login : Login) (answer : Token) :
    Prop where
  access_says : services.tokenizer.verify answer.value =
    .ok { claims := login.accessClaims services.config, hasAudience := false }
  refresh_says : ∃ refresh, answer.refreshToken? = some refresh ∧
    services.tokenizer.verify refresh =
      .ok { claims := login.refreshClaims services.config, hasAudience := false }
  access_identifies : ∀ (now : Instant) state,
    (services.identify now answer.value).perform state =
      if now.seconds ≤ login.issuedAt.seconds + services.config.loginDurationSecs then
        (.ok login.principal, state)
      else (.error (.failure (.identity (.invalidToken .expired))), state)
  access_renews_nothing : ∀ now request, request.keyType = .refresh →
    (services.issue now answer.value request).Refuses
  refresh_identifies_nobody : ∀ refresh ∈ answer.refreshToken?, ∀ now,
    (services.identify now refresh).Refuses
  refresh_logs_nobody_in : ∀ refresh ∈ answer.refreshToken?, ∀ now,
    (services.login now refresh).Refuses

/-- A request to renew a login: when and in which state of the services it is made, and what it
says. -/
structure Renewal (σ : Type) where
  now : Instant
  state : σ
  request : Key
  issuedAt : Instant
  kind : request.keyType = .refresh
  issued : request.issuedAt = some issuedAt

/-- The login of a principal that a request renews. -/
def Renewal.login {σ : Type} (renewal : Renewal σ) (principal : Principal) : Login :=
  { id := renewal.request.id, principal, issuedAt := renewal.issuedAt }

/-- Whether requests renew a login one after another, each of them with the refresh token of the
answer before and with the answer of its own.  Others may have acted on the services in between. -/
inductive Renewed {σ : Type} (services : Services σ) :
    Token → List (Renewal σ) → List Token → Prop where
  | stop (answer : Token) : Renewed services answer [] []
  | renew {before answer : Token} {refresh : String} {renewal : Renewal σ}
      {others : List (Renewal σ)} {answers : List Token}
      (shown : before.refreshToken? = some refresh)
      (performed : (services.issue renewal.now refresh renewal.request).perform renewal.state =
        (.ok answer, renewal.state))
      (onward : Renewed services answer others answers) :
      Renewed services before (renewal :: others) (answer :: answers)

/-- Whether the calendar has the times of a login and of all its renewals, and each renewal is asked
for before the refresh token of the login before has expired. -/
def Login.Timely {σ : Type} (config : TokenConfig) : Login → List (Renewal σ) → Prop
  | login, [] => login.Datable config
  | login, renewal :: others =>
    login.Datable config ∧
      renewal.now.seconds ≤ login.issuedAt.seconds + config.refreshDurationSecs ∧
      (renewal.login login.principal).Timely config others

section Sessions

variable {σ : Type} {services : Services σ} {login : Login} {renewals : List (Renewal σ)}

theorem Login.Timely.datable (timely : login.Timely services.config renewals) :
    login.Datable services.config := by
  cases renewals with
  | nil => exact timely
  | cons renewal others => exact timely.1

/-- The answer to a login honours it: its tokens say who logged in, for as long as they last and for
nothing else. -/
theorem honours_answer (datable : login.Datable services.config) :
    services.Honours login (login.answer services.config) where
  access_says :=
    Tokenizer.verify_sign _ (Claims.readBack (Login.bounded_claims datable.start datable.access))
  refresh_says :=
    have readBack := Claims.readBack (Login.bounded_claims datable.start datable.refresh)
    ⟨_, Login.refreshToken?_answer, Tokenizer.verify_sign _ readBack⟩
  access_identifies := by
    intro now state
    have parsed : services.tokenizer.parse now (login.answer services.config).value = _ :=
      Login.parse_sign_claims datable.start datable.access (by decide)
    unfold Services.identify
    rw [parsed]
    split_ifs <;> rfl
  access_renews_nothing := by
    intro now request kind
    exact renewal_refuses datable.reads_access nofun kind
  refresh_identifies_nobody := by
    rintro refresh shown now
    cases Login.refreshToken?_answer.symm.trans shown
    exact identify_refuses datable.reads_refresh rfl
  refresh_logs_nobody_in := by
    rintro refresh shown now
    cases Login.refreshToken?_answer.symm.trans shown
    exact login_refuses datable.reads_refresh nofun

/-- One renewal hands the principal on. -/
theorem perform_renewal (valid : services.config.validate = .ok ())
    (datable : login.Datable services.config) (named : login.principal.id ≠ "")
    (renewal : Renewal σ)
    (inTime : renewal.now.seconds ≤ login.issuedAt.seconds + services.config.refreshDurationSecs)
    (next : (renewal.login login.principal).Datable services.config) :
    (services.issue renewal.now
      (services.config.tokenizer.sign (login.refreshClaims services.config))
      renewal.request).perform renewal.state =
        (.ok ((renewal.login login.principal).answer services.config), renewal.state) := by
  have parsed : services.tokenizer.parse renewal.now
      (services.config.tokenizer.sign (login.refreshClaims services.config)) =
        .ok (login.refreshClaims services.config).toKey :=
    (Login.parse_sign_claims datable.start datable.refresh (by decide)).trans (if_pos inTime)
  unfold Services.issue
  simp only [renewal.issued, renewal.kind]
  exact perform_renewLogin valid parsed rfl named rfl next

/-- However often a login is renewed in time, every renewal is answered. -/
theorem renewed_of_timely (valid : services.config.validate = .ok ())
    (named : login.principal.id ≠ "") (timely : login.Timely services.config renewals) :
    ∃ answers, Renewed services (login.answer services.config) renewals answers ∧
      List.Forall₂ services.Honours
        (renewals.map fun renewal => renewal.login login.principal) answers := by
  -- The next login has the same principal, so what holds of this one holds of it.
  induction renewals generalizing login with
  | nil => exact ⟨[], .stop _, .nil⟩
  | cons renewal others ih =>
    rcases timely with ⟨datable, inTime, onward⟩
    have performed := perform_renewal valid datable named renewal inTime onward.datable
    have nextNamed : (renewal.login login.principal).principal.id ≠ "" := named
    rcases ih nextNamed onward with ⟨answers, renewed, honoured⟩
    exact ⟨_ :: answers, .renew Login.refreshToken?_answer performed renewed,
      .cons (honours_answer onward.datable) honoured⟩

end Sessions

/-- A login keeps its principal, however often it is renewed in time.  Every request of the chain is
answered, and every answer is one to a login of the principal of the first key, with the id and the
time of its own request. -/
theorem renewed_logins_keep_their_principal {σ : Type} {services : Services σ}
    (valid : services.config.validate = .ok ()) {key : Key} {moment : Instant}
    (access : key.keyType = .access) (named : key.subjectId ≠ "")
    (issued : key.issuedAt = some moment) {renewals : List (Renewal σ)}
    (timely : (Login.ofKey key moment).Timely services.config renewals)
    (now : Instant) (source : String) (state : σ) :
    ∃ first answers,
      (services.issue now source key).perform state = (.ok first, state) ∧
      Renewed services first renewals answers ∧
      List.Forall₂ services.Honours
        (Login.ofKey key moment :: renewals.map fun renewal => renewal.login key.principal)
        (first :: answers) := by
  have sameNamed : (Login.ofKey key moment).principal.id ≠ "" := named
  rcases renewed_of_timely valid sameNamed timely with ⟨answers, renewed, honoured⟩
  refine ⟨_, answers, ?_, renewed, .cons (honours_answer timely.datable) honoured⟩
  unfold Services.issue
  rw [issued, access]
  exact perform_issueLogin valid issued timely.datable

/-- The key for which alice asks when she logs in, half a second after dawn. -/
def loginRequest : Key :=
  { id := "l"
    keyType := .access
    issuer := ""
    subjectId := "alice"
    subject := "alice@example.com"
    issuedAt := some { seconds := 0, nanos := 500000000 }
    expiresAt := none }

/-- A request to renew a login at a second, in the name of somebody else. -/
def forgedRenewal (state : Stores TupleStore) (second : Int) : Renewal (Stores TupleStore) where
  now := { seconds := second, nanos := 999999999 }
  state
  request :=
    { id := "r"
      keyType := .refresh
      issuer := "mallory"
      subjectId := "mallory"
      subject := "mallory@example.com"
      issuedAt := some { seconds := second, nanos := 0 }
      expiresAt := none }
  issuedAt := { seconds := second, nanos := 0 }
  kind := rfl
  issued := rfl

/-- The login of alice is renewed in the last second of her refresh token, and once more.  Then the
last access token speaks for her to its own last second, and no longer. -/
theorem renewed_logins_keep_their_principal_forgedRenewal :
    ∃ first second third,
      ((inMemoryServices tally plainConfig).issue dawn "" loginRequest).perform rootStores =
        (.ok first, rootStores) ∧
      Renewed (inMemoryServices tally plainConfig) first
        [forgedRenewal rootStores 86400, forgedRenewal leafStores 100000] [second, third] ∧
      ((inMemoryServices tally plainConfig).identify { seconds := 100900, nanos := 0 }
        third.value).perform leafStores =
          (.ok { id := "alice", email := "alice@example.com" }, leafStores) ∧
      ((inMemoryServices tally plainConfig).identify { seconds := 100901, nanos := 0 }
        third.value).perform leafStores =
          (.error (.failure (.identity (.invalidToken .expired))), leafStores) := by
  have timely : (Login.ofKey loginRequest { seconds := 0, nanos := 500000000 }).Timely plainConfig
      [forgedRenewal rootStores 86400, forgedRenewal leafStores 100000] :=
    ⟨⟨by decide, by decide, by decide⟩, by decide, ⟨by decide, by decide, by decide⟩,
      by decide, ⟨by decide, by decide, by decide⟩⟩
  have valid : (inMemoryServices tally plainConfig).config.validate = .ok () := by decide
  have named : loginRequest.subjectId ≠ "" := by decide
  rcases renewed_logins_keep_their_principal valid rfl named rfl timely dawn "" rootStores with
    ⟨first, answers, issued, renewed, _ | ⟨-, _ | ⟨-, _ | ⟨honoured, _ | _⟩⟩⟩⟩
  refine ⟨first, _, _, issued, renewed, ?_, ?_⟩
  · rw [honoured.access_identifies]
    exact if_pos (by decide)
  · rw [honoured.access_identifies]
    exact if_neg (by decide)

end Service

end RelationAuth
