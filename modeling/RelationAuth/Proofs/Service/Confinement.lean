import Mathlib.Data.Set.Insert
import RelationAuth.Proofs.Service.KeyRuns

/-!
# Tokens speak for nobody new

Whoever holds some tokens can get others for them: a refresh token is good for a login, and an
access token for API keys.  Whatever the requests say, the new tokens speak for the principals of
the tokens that were shown for them.  So however often tokens are exchanged, and whatever others do
to the stores in between, all of them speak for principals for whom a token was held in the
beginning.
-/

namespace RelationAuth

theorem Instant.represents_of_add {moment later : Instant} {span : Nat}
    (added : moment.add? span = some later) : represents later.seconds = true := by
  unfold add? at added
  simp only at added
  split at added
  · rename_i represented
    cases added
    exact represented
  · cases added

namespace Identity

/-- All texts that come with a token, its own one first. -/
def Token.texts (token : Token) : List String :=
  token.value :: token.extra.map Prod.snd

/-- Whether a text is the token of a key that the issuer of a configuration has issued. -/
structure TokenConfig.Issued (config : TokenConfig) (key : Key) (text : String) : Prop where
  onCalendar : key.OnCalendar
  own : key.issuer = config.issuer
  signed : config.tokenizer.issue key = .ok text

/-- What the token of a key is read as speaks for the principal of the key. -/
theorem TokenConfig.Issued.principal_of_parse {config : TokenConfig} {key read : Key}
    {text : String} (issued : config.Issued key text) {now : Instant}
    (parsed : config.tokenizer.parse now text = .ok read) : read.principal = key.principal := by
  rcases issuedAt : key.issuedAt with _ | moment
  · have unsigned := issued.signed
    simp [Tokenizer.issue, Claims.ofKey, issuedAt, bind, Except.bind] at unsigned
  have timed : key.issuedAt.isSome := by simp [issuedAt]
  rcases config.tokenizer.parse_issue issued.onCalendar issued.own timed with
    ⟨claims, described, signed, redeemed⟩
  obtain rfl : config.tokenizer.sign claims = text := Except.ok.inj (signed.symm.trans issued.signed)
  rcases Claims.ofKey_eq_ok_iff.mp described with ⟨_, _, rfl⟩
  rw [redeemed now, Tokenizer.redeem] at parsed
  split_ifs at parsed
  cases parsed
  rfl

end Identity

namespace Service

open Groups Identity Policy

/-- What a token is exchanged for at a time: a refresh token for an access and a refresh token, and
an access token for the token of an API key.  The token speaks for somebody, and what it is
exchanged for speaks for the same principal. -/
inductive Exchange (config : TokenConfig) (now : Instant) (source : String) : Token → Prop where
  | login {session access refresh : Key} {accessText refreshText : String}
      (parsed : config.tokenizer.parse now source = .ok session)
      (kind : session.keyType = .refresh) (named : session.subjectId ≠ "")
      (accessIssued : config.Issued access accessText) (accessKind : access.keyType = .access)
      (accessPrincipal : access.principal = session.principal)
      (refreshIssued : config.Issued refresh refreshText) (refreshKind : refresh.keyType = .refresh)
      (refreshPrincipal : refresh.principal = session.principal) :
      Exchange config now source (Token.withRefresh accessText refreshText)
  | apiKey {session key : Key} {value : String}
      (parsed : config.tokenizer.parse now source = .ok session)
      (kind : session.keyType = .access) (named : session.subjectId ≠ "")
      (issued : config.Issued key value) (keyKind : key.keyType = .api)
      (principal : key.principal = session.principal) :
      Exchange config now source { value }

section Answers

variable {σ : Type} {services : Services σ} {now : Instant} {state after : σ} {source : String}

theorem parseToken_eq_ok_iff {key : Key} :
    (services.parseToken now source).perform state = (.ok key, after) ↔
      services.tokenizer.parse now source = .ok key ∧ after = state := by
  rw [Services.parseToken, Action.perform_mapFailure_eq_ok_iff, Action.perform_ofExcept_eq_ok_iff]

theorem issueToken_eq_ok_iff {key : Key} {text : String} :
    (services.issueToken key).perform state = (.ok text, after) ↔
      services.tokenizer.issue key = .ok text ∧ after = state := by
  rw [Services.issueToken, Action.perform_mapFailure_eq_ok_iff, Action.perform_ofExcept_eq_ok_iff]

theorem laterBy_eq_ok_iff {moment later : Instant} {span : Nat} :
    (laterBy moment span).perform state = (.ok later, after) ↔
      moment.add? span = some later ∧ after = state := by
  rcases added : moment.add? span with _ | other
  · simp [laterBy, added]
  · simp [laterBy, added, eq_comm]

/-- Only the token of an access key with a subject logs its caller in. -/
theorem of_login {session : Key}
    (performed : (services.login now source).perform state = (.ok session, after)) :
    services.tokenizer.parse now source = .ok session ∧ session.keyType = .access ∧
      session.subjectId ≠ "" := by
  rcases Action.perform_bind_eq_ok_iff.mp performed with ⟨key, middle, parsed, accepted⟩
  rcases parseToken_eq_ok_iff.mp parsed with ⟨read, rfl⟩
  simp only at accepted
  split at accepted
  · cases accepted
  · rename_i login
    cases accepted
    rw [not_or, not_not] at login
    exact ⟨read, login⟩

/-- A login that is issued consists of two tokens of the key, one for access and one to renew it. -/
theorem of_issueLogin {key : Key} {issuedAt : Instant} {answer : Token}
    (performed : (services.issueLogin key issuedAt).perform state = (.ok answer, after)) :
    ∃ accessExpiry refreshExpiry accessText refreshText,
      Instant.represents accessExpiry.seconds = true ∧
      Instant.represents refreshExpiry.seconds = true ∧
      services.tokenizer.issue { key with
        keyType := .access, issuer := services.config.issuer, expiresAt := some accessExpiry } =
          .ok accessText ∧
      services.tokenizer.issue { key with
        keyType := .refresh, issuer := services.config.issuer, expiresAt := some refreshExpiry } =
          .ok refreshText ∧
      answer = Token.withRefresh accessText refreshText := by
  rcases Action.perform_bind_eq_ok_iff.mp performed with ⟨accessExpiry, _, added, performed⟩
  rcases Action.perform_bind_eq_ok_iff.mp performed with ⟨refreshExpiry, _, addedToo, performed⟩
  rcases Action.perform_bind_eq_ok_iff.mp performed with ⟨accessText, _, signed, performed⟩
  rcases Action.perform_bind_eq_ok_iff.mp performed with ⟨refreshText, _, signedToo, performed⟩
  cases performed
  exact ⟨accessExpiry, refreshExpiry, accessText, refreshText,
    Instant.represents_of_add (laterBy_eq_ok_iff.mp added).1,
    Instant.represents_of_add (laterBy_eq_ok_iff.mp addedToo).1,
    (issueToken_eq_ok_iff.mp signed).1, (issueToken_eq_ok_iff.mp signedToo).1, rfl⟩

/-- Renewing a login exchanges a refresh token for an access and a refresh token. -/
theorem exchange_of_renewLogin {request : Key} {issuedAt : Instant} {answer : Token}
    (onCalendar : Instant.represents issuedAt.seconds = true)
    (performed : (services.renewLogin now source request issuedAt).perform state =
      (.ok answer, after)) : Exchange services.config now source answer := by
  rcases Action.perform_bind_eq_ok_iff.mp performed with ⟨session, middle, parsed, renewed⟩
  rcases parseToken_eq_ok_iff.mp parsed with ⟨read, rfl⟩
  simp only at renewed
  split at renewed
  · cases renewed
  · rename_i valid
    rw [not_or, not_not] at valid
    rcases of_issueLogin renewed with
      ⟨accessExpiry, refreshExpiry, accessText, refreshText, accessEnd, refreshEnd, signed,
        signedToo, rfl⟩
    have timed : ∀ expiry : Instant, Instant.represents expiry.seconds = true →
        ∀ time ∈ some expiry, Instant.represents time.seconds = true := by
      rintro expiry represented time ⟨⟩
      exact represented
    exact .login read valid.1 valid.2
      ⟨⟨timed issuedAt onCalendar, timed accessExpiry accessEnd⟩, rfl, signed⟩ rfl rfl
      ⟨⟨timed issuedAt onCalendar, timed refreshExpiry refreshEnd⟩, rfl, signedToo⟩ rfl rfl

/-- Issuing an API key exchanges an access token for the token of the key. -/
theorem exchange_of_issueApiKey {request : Key} {answer : Token} (onCalendar : request.OnCalendar)
    (api : request.keyType = .api)
    (performed : (services.issueApiKey now source request).perform state = (.ok answer, after)) :
    Exchange services.config now source answer := by
  rcases Action.perform_bind_eq_ok_iff.mp performed with ⟨session, _, login, performed⟩
  rcases Action.perform_bind_eq_ok_iff.mp performed with ⟨id, _, -, performed⟩
  rcases Action.perform_bind_eq_ok_iff.mp performed with ⟨_, _, -, performed⟩
  rcases Action.perform_bind_eq_ok_iff.mp performed with ⟨value, _, signed, performed⟩
  cases performed
  rcases of_login login with ⟨read, access, named⟩
  have issued : services.config.Issued (ownedKey services.config session id request) value :=
    ⟨⟨onCalendar.issuedAt, onCalendar.expiresAt⟩, rfl, (issueToken_eq_ok_iff.mp signed).1⟩
  exact .apiKey read access named issued api rfl

/-- Whatever a request for a login or an API key says, it is an exchange of the token that is shown
for it. -/
theorem exchange_of_issue {request : Key} {answer : Token}
    (kind : request.keyType = .refresh ∨ request.keyType = .api) (onCalendar : request.OnCalendar)
    (performed : (services.issue now source request).perform state = (.ok answer, after)) :
    Exchange services.config now source answer := by
  unfold Services.issue at performed
  rcases issuedAt : request.issuedAt with _ | moment
  · rw [issuedAt] at performed
    cases performed
  · rw [issuedAt] at performed
    rcases kind with refresh | api
    · rw [refresh] at performed
      exact exchange_of_renewLogin (onCalendar.issuedAt moment issuedAt) performed
    · rw [api] at performed
      exact exchange_of_issueApiKey onCalendar api
        (Action.perform_mapFailure_eq_ok_iff.mp performed)

/-- Whatever begins with a login needs the token of an access key. -/
theorem of_login_bind {α : Type} {next : Key → Action σ ServiceError α} {value : α}
    (performed : (services.login now source >>= next).perform state = (.ok value, after)) :
    ∃ session, services.tokenizer.parse now source = .ok session ∧ session.keyType = .access := by
  rcases Action.perform_bind_eq_ok_iff.mp performed with ⟨session, _, login, -⟩
  rcases of_login login with ⟨read, access, -⟩
  exact ⟨session, read, access⟩

/-- Only a token that can be read, and is not one for renewal, identifies anybody. -/
theorem of_identify {principal : Principal}
    (performed : (services.identify now source).perform state = (.ok principal, after)) :
    ∃ key, services.tokenizer.parse now source = .ok key ∧ key.keyType ≠ .refresh := by
  unfold Services.identify at performed
  rcases parsed : services.tokenizer.parse now source with cause | key
  · rw [parsed] at performed
    cases cause with
    | apiKeyExpired id owner =>
      rcases Action.perform_bind_eq_ok_iff.mp performed with ⟨_, _, -, refused⟩
      cases refused
    | _ => cases performed
  · refine ⟨key, rfl, ?_⟩
    intro refresh
    rw [parsed] at performed
    simp only [refresh] at performed
    cases performed

end Answers

/-- What is held after some tokens have been exchanged for others any number of times, with the
times that have passed, the latest first.  The requests are free, apart from their type, and every
exchange may find the services in any state, whatever others have done to it. -/
inductive Gathering {σ : Type} (services : Services σ) (initial : Set String) :
    List Instant → Set String → Prop where
  | start : Gathering services initial [] initial
  /-- Time passes, be it with a request that fails. -/
  | wait {times : List Instant} {held : Set String}
      (past : Gathering services initial times held) {now : Instant}
      (latest : ∀ time ∈ times, ¬now.before time) : Gathering services initial (now :: times) held
  | issue {times : List Instant} {held : Set String}
      (past : Gathering services initial times held) {now : Instant}
      (latest : ∀ time ∈ times, ¬now.before time) {source : String} (own : source ∈ held)
      {request : Key} (kind : request.keyType = .refresh ∨ request.keyType = .api)
      (onCalendar : request.OnCalendar) {state after : σ} {answer : Token}
      (issued : (services.issue now source request).perform state = (.ok answer, after)) :
      Gathering services initial (now :: times) (held ∪ { text | text ∈ answer.texts })

/-- Every token that an exchange gives out speaks for the principal of the token that was
presented. -/
theorem Exchange.principal {config : TokenConfig} {now : Instant} {source : String} {answer : Token}
    (exchange : Exchange config now source answer) :
    ∃ session, config.tokenizer.parse now source = .ok session ∧
      ∀ text ∈ answer.texts, ∀ moment key, config.tokenizer.parse moment text = .ok key →
        key.principal = session.principal := by
  cases exchange with
  | @login session access refresh accessText refreshText parsed _ _ accessIssued _ accessPrincipal
      refreshIssued _ refreshPrincipal =>
    refine ⟨session, parsed, ?_⟩
    intro text mem moment key read
    have either : text = accessText ∨ text = refreshText := by
      simpa [Token.texts, Token.withRefresh] using mem
    rcases either with rfl | rfl
    · exact (accessIssued.principal_of_parse read).trans accessPrincipal
    · exact (refreshIssued.principal_of_parse read).trans refreshPrincipal
  | @apiKey session key value parsed _ _ issued _ principal =>
    refine ⟨session, parsed, ?_⟩
    intro text mem moment key read
    obtain rfl : text = value := by simpa [Token.texts] using mem
    exact (issued.principal_of_parse read).trans principal

/-- Only access and refresh tokens are exchanged for others. -/
theorem Exchange.source_kind {config : TokenConfig} {now : Instant} {source : String}
    {answer : Token} (exchange : Exchange config now source answer) :
    ∃ session, config.tokenizer.parse now source = .ok session ∧
      (session.keyType = .access ∨ session.keyType = .refresh) := by
  cases exchange with
  | @login session _ _ _ _ parsed kind => exact ⟨session, parsed, .inr kind⟩
  | @apiKey session _ _ parsed kind => exact ⟨session, parsed, .inl kind⟩

namespace Gathering

variable {σ : Type} {services : Services σ} {initial held : Set String} {times : List Instant}

/-- Whether a token held in the beginning is read, at some time, as the token of a key that speaks
for a principal. -/
def SpokenFor (services : Services σ) (initial : Set String) (times : List Instant)
    (principal : Principal) : Prop :=
  ∃ first ∈ initial, ∃ moment ∈ times, ∃ origin,
    services.tokenizer.parse moment first = .ok origin ∧ origin.principal = principal

theorem SpokenFor.later {principal : Principal} {now : Instant}
    (spoken : SpokenFor services initial times principal) :
    SpokenFor services initial (now :: times) principal := by
  rcases spoken with ⟨first, among, moment, earlier, origin, read, same⟩
  exact ⟨first, among, moment, List.mem_cons_of_mem _ earlier, origin, read, same⟩

/-- What is held was held in the beginning, or it speaks for a principal for whom a token was held
in the beginning. -/
theorem initial_or_spokenFor (run : Gathering services initial times held) {token : String}
    (own : token ∈ held) :
    token ∈ initial ∨ ∃ principal, SpokenFor services initial times principal ∧
      ∀ moment key, services.tokenizer.parse moment token = .ok key →
        key.principal = principal := by
  induction run generalizing token with
  | start => exact .inl own
  | wait past latest ih =>
    rcases ih own with first | ⟨principal, spoken, reads⟩
    · exact .inl first
    · exact .inr ⟨principal, spoken.later, reads⟩
  | @issue times held past now latest source shown request kind onCalendar state after answer issued
      ih =>
    rcases own with old | new
    · rcases ih old with first | ⟨principal, spoken, reads⟩
      · exact .inl first
      · exact .inr ⟨principal, spoken.later, reads⟩
    · -- The new tokens speak for whom the token shown for them speaks, and this one was held before.
      rcases (exchange_of_issue kind onCalendar issued).principal with ⟨session, read, reads⟩
      refine .inr ⟨session.principal, ?_, reads token new⟩
      rcases ih shown with first | ⟨principal, spoken, sourceReads⟩
      · exact ⟨source, first, now, List.mem_cons_self, session, read, rfl⟩
      · rw [sourceReads now session read]
        exact spoken.later

/-- What is held was held in the beginning, or a token that is held was exchanged for it. -/
theorem initial_or_exchanged (run : Gathering services initial times held) {token : String}
    (own : token ∈ held) :
    token ∈ initial ∨ ∃ source ∈ held, ∃ moment ∈ times, ∃ answer : Token,
      Exchange services.config moment source answer ∧ token ∈ answer.texts := by
  induction run generalizing token with
  | start => exact .inl own
  | wait past latest ih =>
    rcases ih own with first | ⟨source, shown, moment, earlier, exchanged⟩
    · exact .inl first
    · exact .inr ⟨source, shown, moment, List.mem_cons_of_mem _ earlier, exchanged⟩
  | @issue times held past now latest source shown request kind onCalendar state after answer issued
      ih =>
    rcases own with old | new
    · rcases ih old with first | ⟨other, shown', moment, earlier, exchanged⟩
      · exact .inl first
      · exact .inr ⟨other, .inl shown', moment, List.mem_cons_of_mem _ earlier, exchanged⟩
    · exact .inr ⟨source, .inl shown, now, List.mem_cons_self, answer,
        exchange_of_issue kind onCalendar issued, new⟩

/-- Nothing is gained from tokens that are neither access nor refresh tokens. -/
theorem eq_initial (run : Gathering services initial times held)
    (inert : ∀ token ∈ initial, ∀ moment ∈ times, ∀ key,
      services.tokenizer.parse moment token = .ok key →
        key.keyType ≠ .access ∧ key.keyType ≠ .refresh) : held = initial := by
  induction run with
  | start => rfl
  | wait past latest ih =>
    exact ih fun token first moment earlier =>
      inert token first moment (List.mem_cons_of_mem _ earlier)
  | @issue times held past now latest source shown request kind onCalendar state after answer issued
      ih =>
    have same := ih fun token first moment earlier =>
      inert token first moment (List.mem_cons_of_mem _ earlier)
    rcases (exchange_of_issue kind onCalendar issued).source_kind with ⟨session, read, usable⟩
    rcases inert source (same ▸ shown) now List.mem_cons_self session read with ⟨access, refresh⟩
    exact absurd usable (not_or_intro access refresh)

end Gathering

/-- Tokens are confined to the principals for whom they were issued.  Whatever is gathered by
exchanging tokens speaks for somebody for whom a token was held in the beginning; what is new was
exchanged for a refresh token or an access token with a subject; and without such tokens nothing is
gained.  Keys are revoked and retrieved with access tokens only, and a refresh token identifies
nobody. -/
theorem tokens_are_confined {σ : Type} {services : Services σ} {initial held : Set String}
    {times : List Instant} (run : Gathering services initial times held) :
    (∀ token ∈ held, ∀ moment ∈ times, ∀ key, services.tokenizer.parse moment token = .ok key →
        ∃ first ∈ initial, ∃ earlier ∈ times, ∃ origin,
          services.tokenizer.parse earlier first = .ok origin ∧
            origin.subjectId = key.subjectId ∧ origin.subject = key.subject) ∧
      (∀ token ∈ held, token ∉ initial → ∃ source ∈ held, ∃ moment ∈ times, ∃ answer : Token,
        Exchange services.config moment source answer ∧ token ∈ answer.texts) ∧
      ((∀ token ∈ initial, ∀ moment ∈ times, ∀ key,
        services.tokenizer.parse moment token = .ok key →
          key.keyType ≠ .access ∧ key.keyType ≠ .refresh) → held = initial) ∧
      ∀ (state : σ) (now : Instant) (token id : String),
        (((services.revoke now token id).perform state).1 = .ok () →
          ∃ key, services.tokenizer.parse now token = .ok key ∧ key.keyType = .access) ∧
        (∀ retrieved, ((services.retrieveKey now token id).perform state).1 = .ok retrieved →
          ∃ key, services.tokenizer.parse now token = .ok key ∧ key.keyType = .access) ∧
        (∀ principal, ((services.identify now token).perform state).1 = .ok principal →
          ∃ key, services.tokenizer.parse now token = .ok key ∧ key.keyType ≠ .refresh) := by
  refine ⟨?_, ?_, run.eq_initial, ?_⟩
  · intro token own moment among key read
    rcases run.initial_or_spokenFor own with first | ⟨principal, spoken, reads⟩
    · exact ⟨token, first, moment, among, key, read, rfl, rfl⟩
    · rcases spoken with ⟨first, held, earlier, earlierAmong, origin, originRead, same⟩
      have principals : origin.principal = key.principal := same.trans (reads moment key read).symm
      rw [Key.principal, Key.principal, Principal.mk.injEq] at principals
      exact ⟨first, held, earlier, earlierAmong, origin, originRead, principals⟩
  · intro token own new
    exact (run.initial_or_exchanged own).resolve_left new
  · intro state now token id
    refine ⟨?_, ?_, ?_⟩
    · intro revoked
      have performed : (services.revoke now token id).perform state = (.ok (), _) :=
        Prod.ext revoked rfl
      exact of_login_bind performed
    · intro key retrieved
      have performed : (services.retrieveKey now token id).perform state = (.ok key, _) :=
        Prod.ext retrieved rfl
      exact of_login_bind performed
    · intro principal identified
      exact of_identify (Prod.ext identified rfl)

/-- A request for an API key in the name of somebody else. -/
def forgedRequest : Key :=
  { lastingRequest with subjectId := "mallory", subject := "mallory@example.com" }

/-- Alice asks for an API key in the name of mallory, and gets one of her own. -/
theorem tokens_are_confined_forgedRequest :
    ∃ value, Gathering (inMemoryServices tally plainConfig) {aliceToken} [dawn]
        ({aliceToken} ∪ { text | text ∈ ({ value } : Token).texts }) ∧
      ∃ key, plainConfig.tokenizer.parse dawn value = .ok key ∧ key.subjectId = "alice" := by
  let owned := ownedKey plainConfig aliceClaims.toKey "n" forgedRequest
  have onCalendar : forgedRequest.OnCalendar :=
    ⟨lastingRequest_onCalendar.issuedAt, lastingRequest_onCalendar.expiresAt⟩
  have datable : owned.OnCalendar := ⟨onCalendar.issuedAt, onCalendar.expiresAt⟩
  have timed : owned.issuedAt.isSome := rfl
  have endless : ∀ second, owned.LastsUntil second := by
    rintro second expiry ⟨⟩
  rcases plainConfig.tokenizer.exists_issued timed with ⟨value, signed⟩
  have given : ({ policies := TupleStore.empty } : Stores TupleStore).ids.given tally 0 =
      some "n" := rfl
  have chosen : (inMemoryServices tally plainConfig).issue dawn aliceToken forgedRequest =
      ((inMemoryServices tally plainConfig).issueApiKey dawn aliceToken forgedRequest).mapFailure
        .issueUser := rfl
  have issued : ∃ after, ((inMemoryServices tally plainConfig).issue dawn aliceToken
      forgedRequest).perform { policies := TupleStore.empty } = (.ok { value }, after) := by
    rw [chosen]
    exact ⟨_, Action.perform_mapFailure_eq_ok_iff.mpr
      (perform_issueApiKey sessionOf_aliceToken given rfl signed)⟩
  rcases issued with ⟨after, issued⟩
  have run : Gathering (inMemoryServices tally plainConfig) {aliceToken} [dawn]
      ({aliceToken} ∪ { text | text ∈ ({ value } : Token).texts }) :=
    .issue .start (by simp) (Set.mem_singleton aliceToken) (.inr rfl) onCalendar issued
  rcases plainConfig.tokenizer.parse_issued_api datable rfl timed rfl (endless 0) signed with
    ⟨key, -, -, -, -, parsed⟩
  have read := (parsed dawn).trans (if_pos (endless dawn.seconds))
  have held : value ∈ ({aliceToken} ∪ { text | text ∈ ({ value } : Token).texts } : Set String) :=
    .inr List.mem_cons_self
  rcases (tokens_are_confined run).1 value held dawn List.mem_cons_self key read with
    ⟨first, own, earlier, among, origin, originRead, same, -⟩
  rw [Set.mem_singleton_iff.mp own, List.mem_singleton.mp among] at originRead
  have alice : aliceClaims.toKey = origin := Except.ok.inj (parse_aliceToken.symm.trans originRead)
  exact ⟨value, run, key, read, same.symm.trans (congrArg Key.subjectId alice.symm)⟩

end Service

end RelationAuth
