import RelationAuth.Proofs.Service.Renewal

/-!
# Keys that would outlast the calendar

A request dates the keys that it asks for, and the settings say how long they last.  Close to the
end of the calendar there is no time at which such a key would end, and issuing it is aborted.  That
is the only way in which issuing comes to no answer: API keys end when their requests say, and ten
years before the end of the calendar every key has its end on it.
-/

namespace RelationAuth

/-- A span leads off the calendar exactly if it goes past the calendar's last second. -/
theorem Instant.add?_eq_none_iff {moment : Instant} {span : Nat}
    (represented : represents moment.seconds = true) :
    moment.add? span = none ↔ lastSecond < moment.seconds + span := by
  simp only [represents, Bool.and_eq_true, decide_eq_true_eq] at represented
  have reached : represents (moment.seconds + span) = true ↔
      moment.seconds + span ≤ lastSecond := by
    simp only [represents, Bool.and_eq_true, decide_eq_true_eq]
    omega
  rw [add?]
  split
  · next within => simpa using reached.mp within
  · next beyond =>
    rw [reached] at beyond
    simpa using beyond

namespace Service

open Identity

/-- How long the keys last whose ends are dated to answer a request.  A request to renew a login has
none where its token renews none, and the end of an API key is dated by its request. -/
def Services.lifetimes {σ : Type} (services : Services σ) (now : Instant) (token : String)
    (key : Key) : List Nat :=
  match key.keyType with
  | .access => [services.config.loginDuration, services.config.refreshDuration]
  | .recovery => [services.config.recoveryDuration]
  | .refresh =>
    match services.tokenizer.parse now token with
    | .ok session =>
      if session.keyType = .refresh ∧ session.subjectId ≠ "" then
        [services.config.loginDuration, services.config.refreshDuration]
      else []
    | .error _ => []
  | .api => []

/-- Whether a key that a request asks for would end beyond the calendar. -/
def Services.OutlastsCalendar {σ : Type} (services : Services σ) (now : Instant) (token : String)
    (key : Key) : Prop :=
  ∃ moment ∈ key.issuedAt, ∃ span ∈ services.lifetimes now token key,
    Instant.lastSecond < moment.seconds + span

section

variable {σ : Type} {services : Services σ} {now moment : Instant} {token : String} {key : Key}
  {span : Nat}

theorem laterBy_aborts (represented : Instant.represents moment.seconds = true)
    (beyond : Instant.lastSecond < moment.seconds + span) :
    (laterBy moment span : Action σ ServiceError Instant).Aborts := by
  intro state
  rw [laterBy, (Instant.add?_eq_none_iff represented).mpr beyond]
  rfl

theorem exists_laterBy (represented : Instant.represents moment.seconds = true)
    (within : ¬Instant.lastSecond < moment.seconds + span) :
    ∃ later, (laterBy moment span : Action σ ServiceError Instant) = pure later := by
  rcases added : moment.add? span with _ | later
  · exact absurd ((Instant.add?_eq_none_iff represented).mp added) within
  · exact ⟨later, by rw [laterBy, added]⟩

theorem issueToken_returns : (services.issueToken key).Returns :=
  Action.returns_ofExcept.mapFailure

theorem login_returns : (services.login now token).Returns := by
  refine Action.returns_ofExcept.mapFailure.bind fun session => ?_
  split
  · exact Action.refuses_fail.bind.returns
  · exact Action.returns_pure

theorem issueRecoveryKey_aborts (represented : Instant.represents moment.seconds = true)
    (beyond : Instant.lastSecond < moment.seconds + services.config.recoveryDuration) :
    (services.issueRecoveryKey key moment).Aborts :=
  (laterBy_aborts represented beyond).bind

theorem issueRecoveryKey_returns (represented : Instant.represents moment.seconds = true)
    (within : ¬Instant.lastSecond < moment.seconds + services.config.recoveryDuration) :
    (services.issueRecoveryKey key moment).Returns := by
  rcases exists_laterBy (σ := σ) represented within with ⟨expiry, answers⟩
  rw [Services.issueRecoveryKey, answers, pure_bind]
  exact issueToken_returns.bind fun _ => Action.returns_pure

/-- A login is aborted if the access token or the refresh token would outlast the calendar. -/
theorem issueLogin_aborts (represented : Instant.represents moment.seconds = true)
    (beyond : ∃ span ∈ [services.config.loginDuration, services.config.refreshDuration],
      Instant.lastSecond < moment.seconds + span) :
    (services.issueLogin key moment).Aborts := by
  by_cases access : Instant.lastSecond < moment.seconds + services.config.loginDuration
  · exact (laterBy_aborts represented access).bind
  · have refresh : Instant.lastSecond < moment.seconds + services.config.refreshDuration := by
      simpa [access] using beyond
    rcases exists_laterBy (σ := σ) represented access with ⟨expiry, answers⟩
    rw [Services.issueLogin, answers, pure_bind]
    exact (laterBy_aborts represented refresh).bind

/-- A login returns if both of its tokens end within the calendar. -/
theorem issueLogin_returns (represented : Instant.represents moment.seconds = true)
    (within : ¬∃ span ∈ [services.config.loginDuration, services.config.refreshDuration],
      Instant.lastSecond < moment.seconds + span) :
    (services.issueLogin key moment).Returns := by
  simp only [List.mem_cons, List.not_mem_nil, or_false, exists_eq_or_imp, exists_eq_left,
    not_or] at within
  rcases exists_laterBy (σ := σ) represented within.1 with ⟨accessExpiry, accessAnswers⟩
  rcases exists_laterBy (σ := σ) represented within.2 with ⟨refreshExpiry, refreshAnswers⟩
  rw [Services.issueLogin, accessAnswers, pure_bind, refreshAnswers, pure_bind]
  exact issueToken_returns.bind fun _ => issueToken_returns.bind fun _ => Action.returns_pure

/-- Issuing an API key adds nothing to a time, so it always returns. -/
theorem issueApiKey_returns (numbered : services.newId.Returns)
    (kept : ∀ key, (services.keys.save key).Returns) :
    (services.issueApiKey now token key).Returns := by
  refine login_returns.bind fun caller => numbered.mapFailure.bind fun id => ?_
  exact (kept _).mapFailure.bind fun _ => issueToken_returns.bind fun _ => Action.returns_pure

/-- The token of a refresh key with a subject renews logins, and no other token does. -/
theorem lifetimes_of_renewal (moment : Instant) (kind : key.keyType = .refresh) :
    (services.renewLogin now token key moment).Refuses ∧ services.lifetimes now token key = [] ∨
      ∃ renewed, services.renewLogin now token key moment = services.issueLogin renewed moment ∧
        services.lifetimes now token key =
          [services.config.loginDuration, services.config.refreshDuration] := by
  simp only [Services.lifetimes, kind]
  rcases parsed : services.tokenizer.parse now token with cause | session
  · refine .inl ⟨Action.Refuses.bind fun state => ⟨.identity cause, ?_⟩, rfl⟩
    rw [Services.parseToken, parsed]
    rfl
  · have answers : ∀ state, (services.parseToken now token).perform state = (.ok session, state) :=
      fun _ => parseToken_eq_ok_iff.mpr ⟨parsed, rfl⟩
    rw [Services.renewLogin, Action.bind_of_answer answers]
    by_cases renews : session.keyType = .refresh ∧ session.subjectId ≠ ""
    · have passes : ¬(session.keyType ≠ .refresh ∨ session.subjectId = "") := by simpa using renews
      rw [if_neg passes]
      exact .inr ⟨_, rfl, if_pos renews⟩
    · refine .inl ⟨?_, if_neg renews⟩
      rw [not_and_or, not_not] at renews
      simp only [if_pos renews]
      exact Action.refuses_fail.bind

/-- An issue whose lifetime outlasts the calendar is aborted, whatever the stores hold. -/
theorem issue_aborts
    (represented : ∀ moment ∈ key.issuedAt, Instant.represents moment.seconds = true)
    (outlasts : services.OutlastsCalendar now token key) :
    (services.issue now token key).Aborts := by
  rcases outlasts with ⟨moment, dated, span, asked, beyond⟩
  have onCalendar := represented moment dated
  rw [Services.issue, Option.mem_def.mp dated]
  rcases kind : key.keyType
  · rw [Services.lifetimes, kind] at asked
    exact issueLogin_aborts onCalendar ⟨span, asked, beyond⟩
  · rcases lifetimes_of_renewal moment kind with ⟨_, none⟩ | ⟨_, same, spans⟩
    · rw [none] at asked
      cases asked
    · simp only [same]
      rw [spans] at asked
      exact issueLogin_aborts onCalendar ⟨span, asked, beyond⟩
  · rw [Services.lifetimes, kind] at asked
    rw [List.mem_singleton.mp asked] at beyond
    exact issueRecoveryKey_aborts onCalendar beyond
  · rw [Services.lifetimes, kind] at asked
    cases asked

/-- Every other issue returns, with a token or a failure. -/
theorem issue_returns (numbered : services.newId.Returns)
    (kept : ∀ key, (services.keys.save key).Returns)
    (represented : ∀ moment ∈ key.issuedAt, Instant.represents moment.seconds = true)
    (within : ¬services.OutlastsCalendar now token key) :
    (services.issue now token key).Returns := by
  rcases dated : key.issuedAt with _ | moment
  · rw [Services.issue, dated]
    exact Action.refuses_fail.returns
  have onCalendar := represented moment dated
  have reached : ¬∃ span ∈ services.lifetimes now token key,
      Instant.lastSecond < moment.seconds + span := fun beyond => within ⟨moment, dated, beyond⟩
  rw [Services.issue, dated]
  rcases kind : key.keyType
  · rw [Services.lifetimes, kind] at reached
    exact issueLogin_returns onCalendar reached
  · rcases lifetimes_of_renewal moment kind with ⟨refuses, _⟩ | ⟨_, same, spans⟩
    · exact refuses.returns
    · simp only [same]
      rw [spans] at reached
      exact issueLogin_returns onCalendar reached
  · rw [Services.lifetimes, kind] at reached
    simp only [List.mem_singleton, exists_eq_left] at reached
    exact issueRecoveryKey_returns onCalendar reached
  · exact (issueApiKey_returns numbered kept).mapFailure

/-- The lifetimes are bounded by the configuration, so only a time of issue near the end outlasts
it. -/
theorem lifetimes_le (asked : span ∈ services.lifetimes now token key) :
    span ≤ maxDurationSecs := by
  have cut : ∀ seconds, TokenConfig.bounded seconds ≤ maxDurationSecs :=
    fun _ => Nat.min_le_right _ _
  have logins : ∀ span ∈ [services.config.loginDuration, services.config.refreshDuration],
      span ≤ maxDurationSecs :=
    List.forall_mem_cons.mpr ⟨cut _, List.forall_mem_singleton.mpr (cut _)⟩
  rw [Services.lifetimes] at asked
  split at asked
  · exact logins span asked
  · rw [List.mem_singleton.mp asked]
    exact cut _
  · split at asked
    · split_ifs at asked
      · exact logins span asked
      · cases asked
    · cases asked
  · cases asked

theorem newId_returns {numbered : Nat → String} : (IdSource.next numbered).Returns := by
  intro source
  rw [IdSource.perform_next]
  rcases source.given numbered 0 with _ | id
  · exact .inr ⟨_, rfl⟩
  · exact .inl ⟨id, rfl⟩

theorem save_returns (key : Key) : (KeyRepository.inMemory.save key).Returns :=
  Action.returns_change.bind fun _ => Action.returns_pure

/-- Issuing comes to an answer or a refusal exactly if no key that it dates would outlast the
calendar, and is aborted otherwise, whatever the settings, the token and the request.  Ten years
before the end of the calendar none would. -/
theorem issue_returns_within_calendar {key : Key} (numbered : services.newId.Returns)
    (kept : ∀ key, (services.keys.save key).Returns)
    (represented : ∀ moment ∈ key.issuedAt, Instant.represents moment.seconds = true)
    (now : Instant) (token : String) (state : σ) :
    (((services.issue now token key).perform state).1 = .error .aborted ↔
        services.OutlastsCalendar now token key) ∧
      (¬services.OutlastsCalendar now token key →
        (∃ answer, ((services.issue now token key).perform state).1 = .ok answer) ∨
          ∃ cause, ((services.issue now token key).perform state).1 = .error (.failure cause)) ∧
      ((∀ moment ∈ key.issuedAt, moment.seconds + maxDurationSecs ≤ Instant.lastSecond) →
        ¬services.OutlastsCalendar now token key) := by
  refine ⟨⟨fun aborted => ?_, fun outlasts => issue_aborts represented outlasts state⟩, ?_, ?_⟩
  · by_contra within
    rcases issue_returns numbered kept represented within state with ⟨_, answer⟩ | ⟨_, answer⟩ <;>
      · rw [aborted] at answer
        cases answer
  · exact fun within => issue_returns numbered kept represented within state
  · rintro early ⟨moment, dated, span, asked, beyond⟩
    have longest := lifetimes_le asked
    have margin := early moment dated
    omega

end

/-- A request of alice to log in at a second before the last one of the calendar. -/
def lateRequest (before : Nat) : Key :=
  { loginRequest with issuedAt := some { seconds := Instant.lastSecond - before, nanos := 0 } }

/-- A day before the end of the calendar alice can log in still, but not a second later. -/
theorem issue_returns_within_calendar_lateRequest :
    ((∃ answer, (((inMemoryServices tally plainConfig).issue dawn ""
        (lateRequest 86400)).perform rootStores).1 = .ok answer) ∨
      ∃ cause, (((inMemoryServices tally plainConfig).issue dawn ""
        (lateRequest 86400)).perform rootStores).1 = .error (.failure cause)) ∧
      (((inMemoryServices tally plainConfig).issue dawn "" (lateRequest 86399)).perform
        rootStores).1 = .error .aborted := by
  have numbered : (inMemoryServices tally plainConfig).newId.Returns := newId_returns.onPart
  have kept : ∀ key, ((inMemoryServices tally plainConfig).keys.save key).Returns :=
    fun key => (save_returns key).onPart
  constructor
  · refine (issue_returns_within_calendar numbered kept ?_ dawn "" rootStores).2.1 ?_
    · rintro _ ⟨⟩
      decide
    · rintro ⟨_, ⟨⟩, span, asked, beyond⟩
      have longest : ∀ span ∈ [900, 86400], span ≤ 86400 := by decide
      have within := longest span asked
      change Instant.lastSecond < Instant.lastSecond - 86400 + span at beyond
      omega
  · refine (issue_returns_within_calendar numbered kept ?_ dawn "" rootStores).1.mpr
      ⟨_, rfl, 86400, ?_, ?_⟩
    · rintro _ ⟨⟩
      decide
    · decide
    · decide

/-- In the last second of the calendar no request to log in is answered, though the settings pass
their check and the calendar has the time of the request. -/
theorem issue_aborts_lateRequest :
    plainConfig.validate = .ok () ∧
      (∀ moment ∈ (lateRequest 0).issuedAt, Instant.represents moment.seconds = true) ∧
      (((inMemoryServices tally plainConfig).issue dawn "" (lateRequest 0)).perform
        rootStores).1 = .error .aborted := by
  refine ⟨by decide, ?_, rfl⟩
  rintro _ ⟨⟩
  decide

end Service

end RelationAuth
