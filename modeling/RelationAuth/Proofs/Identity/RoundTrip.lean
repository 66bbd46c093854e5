import RelationAuth.Proofs.Identity.Expiry

/-!
# Keys read back

The token of a key carries the whole key, whatever its texts hold; only what its times have beyond
whole seconds is lost.  As long as the token is good, it is read back as this key.
-/

namespace RelationAuth.Identity

/-- Whether the token of a key is good at a second: its own second of expiry is one that is compared
and has not passed, or it is an API key without an expiry. -/
def Key.GoodAt (key : Key) (second : Int) : Prop :=
  match key.expiresAt with
  | some expiry => 0 ≤ expiry.seconds ∧ second ≤ expiry.seconds
  | none => key.keyType = .api

namespace Tokenizer

variable {key : Key} {claims : Claims}

/-- The claims of a key are good for the key in whole seconds as long as its token is good. -/
theorem redeem_ofKey_of_goodAt (described : Claims.ofKey key = .ok claims)
    (onCalendar : key.OnCalendar) {now : Instant} (good : key.GoodAt now.seconds) :
    redeem claims now = .ok key.inWholeSeconds := by
  have restored := Claims.toKey_ofKey described onCalendar
  rcases Claims.ofKey_eq_ok_iff.mp described with ⟨issuedAt, issued, rfl⟩
  rw [redeem, restored]
  rcases expires : key.expiresAt with _ | expiry
  · have api : key.keyType = .api := by simpa only [Key.GoodAt, expires] using good
    simp [Claims.expiredAt, Key.inWholeSeconds, expires, api]
  · have current : 0 ≤ expiry.seconds ∧ now.seconds ≤ expiry.seconds := by
      simpa only [Key.GoodAt, expires] using good
    have valid : ¬expiry.seconds < now.seconds := by omega
    simp [Claims.expiredAt, Key.inWholeSeconds, expires, valid]

/-- Reading undoes issuing: every key with a time of issue has a token, and as long as the token is
good it is read as the key with its times cut down to whole seconds. -/
theorem parse_undoes_issue (tokenizer : Tokenizer) {key : Key} (onCalendar : key.OnCalendar)
    (own : key.issuer = tokenizer.issuer) (issued : key.issuedAt.isSome) :
    ∃ token, tokenizer.issue key = .ok token ∧
      ∀ now : Instant, key.GoodAt now.seconds →
        tokenizer.parse now token = .ok key.inWholeSeconds := by
  rcases tokenizer.parse_issue onCalendar own issued with ⟨claims, described, signed, parsed⟩
  refine ⟨tokenizer.sign claims, signed, fun now good => ?_⟩
  rw [parsed now, redeem_ofKey_of_goodAt described onCalendar good]

/-- A key without a subject whose texts need escapes.  It was issued just before 1970 and expires
within the last second in which it is read. -/
def markedKey : Key :=
  { id := "k\"1\\\n"
    keyType := .refresh
    issuer := "rustcare.auth"
    subjectId := ""
    subject := "\x01é\t😀."
    issuedAt := some { seconds := -1, nanos := 999999999 }
    expiresAt := some { seconds := 1750000000, nanos := 5 } }

theorem markedKey_onCalendar : markedKey.OnCalendar where
  issuedAt := by
    rintro time ⟨⟩
    decide
  expiresAt := by
    rintro time ⟨⟩
    decide

/-- The key with marks in its texts and an issue time before the epoch is read back, in whole
seconds. -/
theorem parse_undoes_issue_markedKey :
    markedKey.OnCalendar ∧ markedKey.issuer = plainTokenizer.issuer ∧ markedKey.issuedAt.isSome ∧
      markedKey.GoodAt summer2025.seconds ∧
      ∃ token, plainTokenizer.issue markedKey = .ok token ∧
        plainTokenizer.parse summer2025 token = .ok
          { markedKey with
            issuedAt := some { seconds := -1, nanos := 0 }
            expiresAt := some { seconds := 1750000000, nanos := 0 } } := by
  have good : markedKey.GoodAt summer2025.seconds := ⟨by decide, by decide⟩
  rcases parse_undoes_issue plainTokenizer markedKey_onCalendar rfl rfl with ⟨token, issued, read⟩
  exact ⟨markedKey_onCalendar, rfl, rfl, good, token, issued, read summer2025 good⟩

end Tokenizer

end RelationAuth.Identity
