import RelationAuth.Proofs.Identity.Claims

/-!
# Expiry of keys and of their tokens

A key has a rule of expiry, and so has the token that carries it.  Where all times are whole seconds
the two rules agree, up to one exception: a second of expiry before 1970 is not compared when a
token is read, so that the token of a key that expired then is accepted for ever.
-/

namespace RelationAuth

theorem Instant.isSigned64_of_represents {second : Int} (represented : represents second = true) :
    isSigned64 second = true := by
  have first : -(signed64Bound : Int) ≤ firstSecond := by decide
  have last : lastSecond < (signed64Bound : Int) := by decide
  simp only [represents, isSigned64, Bool.and_eq_true, decide_eq_true_eq] at represented ⊢
  omega

/-- Whether an instant is a whole second of the calendar. -/
def Instant.IsWhole (instant : Instant) : Prop :=
  ofSeconds? instant.seconds = some instant

instance (instant : Instant) : Decidable instant.IsWhole :=
  inferInstanceAs (Decidable (_ = _))

theorem Instant.IsWhole.represents_seconds {instant : Instant} (whole : instant.IsWhole) :
    represents instant.seconds = true := by
  rcases represented : represents instant.seconds with _ | _
  · simp [IsWhole, ofSeconds?, represented] at whole
  · rfl

theorem Instant.IsWhole.nanos {instant : Instant} (whole : instant.IsWhole) :
    instant.nanos = 0 := by
  simp only [IsWhole, ofSeconds?, whole.represents_seconds, if_true, Option.some.injEq] at whole
  rw [← whole]

/-- An instant cut down to its whole second. -/
def Instant.wholeSecond (instant : Instant) : Instant :=
  { instant with nanos := 0 }

theorem Instant.ofSeconds?_seconds {instant : Instant}
    (represented : represents instant.seconds = true) :
    ofSeconds? instant.seconds = some instant.wholeSecond := by
  rw [ofSeconds?, if_pos represented, wholeSecond]

theorem Instant.IsWhole.wholeSecond_eq {instant : Instant} (whole : instant.IsWhole) :
    instant.wholeSecond = instant :=
  Option.some.inj ((ofSeconds?_seconds whole.represents_seconds).symm.trans whole)

theorem Instant.before_of_whole {earlier later : Instant} (left : earlier.nanos = 0)
    (right : later.nanos = 0) :
    earlier.before later = decide (earlier.seconds < later.seconds) := by
  simp [before, left, right]

theorem Instant.seconds_le_of_not_before {earlier later : Instant}
    (order : ¬later.before earlier) : earlier.seconds ≤ later.seconds := by
  simp only [before, Bool.or_eq_true, decide_eq_true_eq] at order
  omega

namespace Identity

/-- Whether the calendar represents the times of a key. -/
structure Key.OnCalendar (key : Key) : Prop where
  issuedAt : ∀ time ∈ key.issuedAt, Instant.represents time.seconds = true
  expiresAt : ∀ time ∈ key.expiresAt, Instant.represents time.seconds = true

/-- Whether the times of a key are whole seconds. -/
structure Key.InSeconds (key : Key) : Prop where
  issuedAt : ∀ time ∈ key.issuedAt, time.IsWhole
  expiresAt : ∀ time ∈ key.expiresAt, time.IsWhole

/-- A key with its times cut down to whole seconds. -/
def Key.inWholeSeconds (key : Key) : Key :=
  { key with
    issuedAt := key.issuedAt.map Instant.wholeSecond
    expiresAt := key.expiresAt.map Instant.wholeSecond }

/-- Whether a key expires before the first second that is compared when a token is read. -/
def Key.expiresBeforeEpoch (key : Key) : Bool :=
  key.expiresAt.any fun expiry => expiry.seconds < 0

/-- Whether a key, if it expires at all, does not expire before a second. -/
def Key.LastsUntil (key : Key) (second : Int) : Prop :=
  ∀ expiry ∈ key.expiresAt, second ≤ expiry.seconds

instance (key : Key) (second : Int) : Decidable (key.LastsUntil second) :=
  inferInstanceAs (Decidable (∀ _ ∈ _, _))

/-- The failure of reading the token of a key that has expired. -/
def Key.expiryFailure (key : Key) : IdentityError :=
  if key.keyType = .api then .apiKeyExpired key.id key.subjectId
  else .invalidToken (if key.expiresAt = none then .missingClaim "exp" else .expired)

variable {key : Key} {claims : Claims}

theorem Key.InSeconds.onCalendar (inSeconds : key.InSeconds) : key.OnCalendar where
  issuedAt time mem := (inSeconds.issuedAt time mem).represents_seconds
  expiresAt time mem := (inSeconds.expiresAt time mem).represents_seconds

theorem Key.LastsUntil.of_le {earlier later : Int} (lasts : key.LastsUntil later)
    (order : earlier ≤ later) : key.LastsUntil earlier :=
  fun expiry mem => Int.le_trans order (lasts expiry mem)

/-- Claims are drawn from a key exactly if it has an issue time. -/
theorem Claims.ofKey_eq_ok_iff :
    ofKey key = .ok claims ↔
      ∃ issuedAt, key.issuedAt = some issuedAt ∧
        claims =
          { jti := key.id
            iss := key.issuer
            iat := issuedAt.seconds
            sub := key.subject
            subjectId := key.subjectId
            keyType := key.keyType
            exp := key.expiresAt.map (·.seconds) } := by
  rcases issued : key.issuedAt with _ | issuedAt
  · simp [ofKey, issued]
  · simp [ofKey, issued, eq_comm]

theorem Claims.bounded_ofKey (described : ofKey key = .ok claims) (onCalendar : key.OnCalendar) :
    claims.Bounded := by
  rcases ofKey_eq_ok_iff.mp described with ⟨issuedAt, issued, rfl⟩
  refine ⟨Instant.isSigned64_of_represents (onCalendar.issuedAt issuedAt issued), ?_⟩
  intro expiry mem
  rcases Option.map_eq_some_iff.mp mem with ⟨time, expires, rfl⟩
  exact Instant.isSigned64_of_represents (onCalendar.expiresAt time expires)

/-- The claims of a key describe the key with its times cut down to whole seconds. -/
theorem Claims.toKey_ofKey (described : ofKey key = .ok claims) (onCalendar : key.OnCalendar) :
    claims.toKey = key.inWholeSeconds := by
  rcases ofKey_eq_ok_iff.mp described with ⟨issuedAt, issued, rfl⟩
  have start := Instant.ofSeconds?_seconds (onCalendar.issuedAt issuedAt issued)
  rcases expires : key.expiresAt with _ | expiry
  · simp only [toKey, Key.inWholeSeconds, expires, issued, start, Option.map_some, Option.map_none,
      Option.bind_none]
  · have stop := Instant.ofSeconds?_seconds (onCalendar.expiresAt expiry expires)
    simp only [toKey, Key.inWholeSeconds, expires, issued, start, stop, Option.map_some,
      Option.bind_some]

/-- A key whose times are whole seconds keeps them. -/
theorem Key.InSeconds.inWholeSeconds_eq (inSeconds : key.InSeconds) : key.inWholeSeconds = key := by
  have kept : ∀ time? : Option Instant, (∀ time ∈ time?, time.IsWhole) →
      time?.map Instant.wholeSecond = time? := by
    rintro (_ | time) whole
    · rfl
    · exact congrArg some (whole time rfl).wholeSecond_eq
  rw [inWholeSeconds, kept _ inSeconds.issuedAt, kept _ inSeconds.expiresAt]

/-- In whole seconds the claims expire when their key does, unless the key expires before the
epoch. -/
theorem Claims.expiredAt_ofKey (described : ofKey key = .ok claims) (inSeconds : key.InSeconds)
    {now : Instant} (whole : now.nanos = 0) :
    claims.expiredAt now.seconds =
      (key.expiresAt.isSome && key.expiredAt now && !key.expiresBeforeEpoch) := by
  rcases ofKey_eq_ok_iff.mp described with ⟨issuedAt, issued, rfl⟩
  rcases expires : key.expiresAt with _ | expiry
  · simp [expiredAt]
  · have stop := (inSeconds.expiresAt expiry expires).nanos
    have compared : decide (0 ≤ expiry.seconds) = !decide (expiry.seconds < 0) := by
      rw [← decide_not, decide_eq_decide]
      omega
    simp [expiredAt, Key.expiredAt, Key.expiresBeforeEpoch, expires,
      Instant.before_of_whole stop whole, compared, Bool.and_comm]

namespace Tokenizer

variable (tokenizer : Tokenizer)

/-- In whole seconds, the claims of a key are good for the key as long as it has not expired, and
beyond that if it expired before 1970. -/
theorem redeem_ofKey (described : Claims.ofKey key = .ok claims) (inSeconds : key.InSeconds)
    {now : Instant} (whole : now.nanos = 0) :
    redeem claims now =
      if key.expiredAt now ∧ key.expiresBeforeEpoch = false then .error key.expiryFailure
      else .ok key := by
  have expired := Claims.expiredAt_ofKey described inSeconds whole
  have restored := (Claims.toKey_ofKey described inSeconds.onCalendar).trans
    inSeconds.inWholeSeconds_eq
  have labels : claims.keyType = key.keyType ∧ claims.jti = key.id ∧
      claims.subjectId = key.subjectId := by
    rcases Claims.ofKey_eq_ok_iff.mp described with ⟨issuedAt, issued, rfl⟩
    exact ⟨rfl, rfl, rfl⟩
  rw [redeem, expired, restored, labels.1, labels.2.1, labels.2.2]
  rcases expires : key.expiresAt with _ | expiry
  · by_cases api : key.keyType = .api <;>
      simp [Key.expiredAt, Key.expiresBeforeEpoch, Key.expiryFailure, expires, api]
  · rcases late : key.expiredAt now with _ | _ <;>
      rcases early : key.expiresBeforeEpoch with _ | _ <;>
      simp [Key.expiryFailure, expires]

theorem issue_of_described (described : Claims.ofKey key = .ok claims) :
    tokenizer.issue key = .ok (tokenizer.sign claims) := by
  rw [issue, described]
  rfl

/-- The token of a key is read as the claims of the key are, whatever the time. -/
theorem parse_issue (onCalendar : key.OnCalendar) (own : key.issuer = tokenizer.issuer)
    (issued : key.issuedAt.isSome) :
    ∃ claims, Claims.ofKey key = .ok claims ∧ tokenizer.issue key = .ok (tokenizer.sign claims) ∧
      ∀ now, tokenizer.parse now (tokenizer.sign claims) = redeem claims now := by
  rcases Option.isSome_iff_exists.mp issued with ⟨issuedAt, issued⟩
  have described := Claims.ofKey_eq_ok_iff.mpr ⟨issuedAt, issued, rfl⟩
  exact ⟨_, described, tokenizer.issue_of_described described,
    tokenizer.parse_sign_of_bounded (Claims.bounded_ofKey described onCalendar) own⟩

/-- The token of a key with a time of issue can always be made. -/
theorem exists_issued (issuedAt : key.issuedAt.isSome) :
    ∃ value, tokenizer.issue key = .ok value := by
  rcases Option.isSome_iff_exists.mp issuedAt with ⟨moment, issued⟩
  exact ⟨_, tokenizer.issue_of_described (Claims.ofKey_eq_ok_iff.mpr ⟨moment, issued, rfl⟩)⟩

/-- An API key is refused only for its expiry. -/
theorem redeem_of_api (now : Instant) (api : claims.keyType = .api) :
    redeem claims now =
      if claims.expiredAt now.seconds then .error (.apiKeyExpired claims.jti claims.subjectId)
      else .ok claims.toKey := by
  rw [redeem]
  simp [api]

/-- The token of an API key is read as the key up to the second in which it expires, unless that is
a second before 1970. -/
theorem parse_issued_api {value : String} (onCalendar : key.OnCalendar)
    (own : key.issuer = tokenizer.issuer) (issuedAt : key.issuedAt.isSome)
    (api : key.keyType = .api) (compared : key.LastsUntil 0)
    (signed : tokenizer.issue key = .ok value) :
    ∃ read, read.id = key.id ∧ read.keyType = .api ∧ read.subjectId = key.subjectId ∧
      read.subject = key.subject ∧
      ∀ now, tokenizer.parse now value =
        if key.LastsUntil now.seconds then .ok read
        else .error (.apiKeyExpired key.id key.subjectId) := by
  rcases tokenizer.parse_issue onCalendar own issuedAt with
    ⟨claims, described, signedToo, parsed⟩
  obtain rfl : tokenizer.sign claims = value := Except.ok.inj (signedToo.symm.trans signed)
  rcases Claims.ofKey_eq_ok_iff.mp described with ⟨moment, issued, same⟩
  refine ⟨claims.toKey, ?_⟩
  subst same
  refine ⟨rfl, api, rfl, rfl, fun now => ?_⟩
  rw [parsed now, redeem_of_api now api]
  rcases expires : key.expiresAt with _ | expiry
  · simp [Claims.expiredAt, Key.LastsUntil, expires]
  · have start : 0 ≤ expiry.seconds := compared expiry expires
    by_cases late : expiry.seconds < now.seconds
    · have expired : ¬now.seconds ≤ expiry.seconds := by omega
      simp [Claims.expiredAt, Key.LastsUntil, expires, start, late, expired]
    · have valid : now.seconds ≤ expiry.seconds := by omega
      simp [Claims.expiredAt, Key.LastsUntil, expires, late, valid]

/-- The token of a key in whole seconds is accepted as this key until the key expires, and for ever
if the key expired before 1970.  The refusal of an expired API key tells which key it was. -/
theorem accepts_iff_not_expired (inSeconds : key.InSeconds) (own : key.issuer = tokenizer.issuer)
    (issued : key.issuedAt.isSome) :
    ∃ token, tokenizer.issue key = .ok token ∧ ∀ now : Instant, now.nanos = 0 →
      ((∃ accepted, tokenizer.parse now token = .ok accepted) ↔
          key.expiredAt now = false ∨ key.expiresBeforeEpoch = true) ∧
        (∀ accepted, tokenizer.parse now token = .ok accepted → accepted = key) ∧
        (key.expiredAt now = true → key.expiresBeforeEpoch = false → key.keyType = .api →
          tokenizer.parse now token = .error (.apiKeyExpired key.id key.subjectId)) := by
  rcases tokenizer.parse_issue inSeconds.onCalendar own issued with
    ⟨claims, described, signed, parsed⟩
  refine ⟨tokenizer.sign claims, signed, ?_⟩
  intro now whole
  rw [parsed now, redeem_ofKey described inSeconds whole]
  by_cases refused : key.expiredAt now = true ∧ key.expiresBeforeEpoch = false
  · rw [if_pos refused]
    refine ⟨?_, ?_, ?_⟩
    · simp [refused]
    · simp
    · intro _ _ api
      rw [Key.expiryFailure, if_pos api]
  · rw [if_neg refused]
    refine ⟨?_, ?_, ?_⟩
    · rcases late : key.expiredAt now with _ | _
      · simp
      · simpa [late] using refused
    · rintro accepted ⟨⟩
      rfl
    · intro late epoch
      exact absurd ⟨late, epoch⟩ refused

/-- A tokenizer with the standard issuer. -/
def plainTokenizer : Tokenizer :=
  { secret := "test-secret", issuer := "rustcare.auth" }

/-- A second in June 2025. -/
def summer2025 : Instant :=
  { seconds := 1750000000, nanos := 0 }

/-- A key of a user from the year 2000 that expires at a second. -/
def keyUntil (keyType : KeyType) (second : Int) : Key :=
  { id := "k1"
    keyType
    issuer := "rustcare.auth"
    subjectId := "u1"
    subject := "u1@example.com"
    issuedAt := some { seconds := 946684800, nanos := 0 }
    expiresAt := some { seconds := second, nanos := 0 } }

theorem keyUntil_inSeconds (keyType : KeyType) (second : Int)
    (represented : Instant.represents second = true) : (keyUntil keyType second).InSeconds where
  issuedAt := by
    rintro time ⟨⟩
    decide
  expiresAt := by
    rintro time ⟨⟩
    simp [Instant.IsWhole, Instant.ofSeconds?, represented]

/-- A key that expired in 2001 is refused in 2025, with its id and owner. -/
theorem refuses_api_key_expired_in_2001 :
    (keyUntil .api 978307200).InSeconds ∧
      (keyUntil .api 978307200).issuer = plainTokenizer.issuer ∧
      (keyUntil .api 978307200).issuedAt.isSome ∧
      ∃ token, plainTokenizer.issue (keyUntil .api 978307200) = .ok token ∧
        plainTokenizer.parse summer2025 token = .error (.apiKeyExpired "k1" "u1") := by
  have inSeconds := keyUntil_inSeconds .api 978307200 (by decide)
  rcases accepts_iff_not_expired plainTokenizer inSeconds rfl rfl with ⟨token, issued, read⟩
  have refusal := (read summer2025 rfl).2.2
  exact ⟨inSeconds, rfl, rfl, token, issued, refusal (by decide) (by decide) rfl⟩

/-- The access key of somebody whose login ended in 1960 is accepted in 2025. -/
theorem accepts_key_expired_in_1960 :
    (keyUntil .access (-315619200)).expiredAt summer2025 = true ∧
      ∃ token, plainTokenizer.issue (keyUntil .access (-315619200)) = .ok token ∧
        plainTokenizer.parse summer2025 token = .ok (keyUntil .access (-315619200)) := by
  have inSeconds := keyUntil_inSeconds .access (-315619200) (by decide)
  rcases parse_issue plainTokenizer inSeconds.onCalendar rfl rfl with
    ⟨claims, described, issued, parsed⟩
  refine ⟨by decide, _, issued, ?_⟩
  rw [parsed, redeem_ofKey described inSeconds rfl]
  rfl

end Tokenizer

end Identity

end RelationAuth
