import RelationAuth.Proofs.Identity.Authentic
import RelationAuth.Proofs.Service.KeyRuns

/-!
# No token is believed unless it is authentic

Reading a token heeds nothing but the claims of an authentic token, and for a header and claims
there is one signature only with which they are heeded.  So the services act on authentic tokens
alone: the only ones that change the stored keys when somebody is identified say of an API key that
it has expired, and they remove this key and no other.
-/

namespace RelationAuth.Service

open Groups Identity Policy

/-- Whether a token is authentic and says of an API key that it has expired. -/
def ReportsExpiry (config : TokenConfig) (now : Instant) (token : String) (claims : Claims) : Prop :=
  config.tokenizer.Vouches token claims ∧ claims.expiredAt now.seconds = true ∧
    claims.keyType = .api

variable {numbered : Nat → String} {config : TokenConfig} {now : Instant} {token : String}
  {claims : Claims} {stores : Stores TupleStore}

/-- A token that reports the expiry of an API key has the key that it names removed. -/
theorem perform_identify_of_reportsExpiry (reports : ReportsExpiry config now token claims) :
    ((inMemoryServices numbered config).identify now token).perform stores =
      (.error (.failure .apiKeyExpired),
        stores.withKeys (stores.keys.remove claims.subjectId claims.jti)) := by
  rcases reports with ⟨vouched, expired, api⟩
  have parsed := Tokenizer.parse_eq_apiKeyExpired_iff.mpr
    ⟨claims, vouched, expired, api, rfl, rfl⟩
  rw [perform_identify, parsed]

/-- No other token changes anything by being identified. -/
theorem identify_leaves (unreported : ∀ claims, ¬ReportsExpiry config now token claims) :
    (((inMemoryServices numbered config).identify now token).perform stores).2 = stores := by
  rw [perform_identify]
  split
  · rename_i id owner parsed
    rcases Tokenizer.parse_eq_apiKeyExpired_iff.mp parsed with ⟨claims, vouched, expired, api, -⟩
    exact absurd ⟨vouched, expired, api⟩ (unreported claims)
  · rfl
  · rfl

variable (numbered config)

/-- Nothing that a token says is acted on unless the token is authentic.  A key that is read and an
API key that is told to have expired are those of the claims of an authentic token, and a header and
claims have one signature at most with which they are heeded.  Identifying somebody changes nothing,
except that an authentic token of an expired API key removes this key. -/
theorem only_authentic_claims_are_heeded :
    (∀ now token key, config.tokenizer.parse now token = .ok key →
        ∃ claims, config.tokenizer.Vouches token claims ∧ key = claims.toKey) ∧
      (∀ now token id owner, config.tokenizer.parse now token = .error (.apiKeyExpired id owner) →
        ∃ claims, config.tokenizer.Vouches token claims ∧ claims.keyType = .api ∧
          id = claims.jti ∧ owner = claims.subjectId) ∧
      (∀ header payload signature signature' now now',
        config.tokenizer.Heeds now (TokenParts.text { header, payload, signature }) →
        config.tokenizer.Heeds now' (TokenParts.text { header, payload, signature := signature' }) →
        signature = signature') ∧
      ∀ now token (stores : Stores TupleStore),
        (∀ claims, ReportsExpiry config now token claims →
          ∃ keys : KeyStore,
            ((inMemoryServices numbered config).identify now token).perform stores =
              (.error (.failure .apiKeyExpired), stores.withKeys keys) ∧
            ∀ entry, keys.keys.find? entry =
              if entry = (claims.subjectId, claims.jti) then none
              else stores.keys.keys.find? entry) ∧
        ((∀ claims, ¬ReportsExpiry config now token claims) →
          (((inMemoryServices numbered config).identify now token).perform stores).2 = stores) := by
  refine ⟨?_, ?_, ?_, ?_⟩
  · intro now token key read
    rcases Tokenizer.parse_eq_ok_iff.mp read with ⟨claims, vouched, -, -, same⟩
    exact ⟨claims, vouched, same.symm⟩
  · intro now token id owner expired
    rcases Tokenizer.parse_eq_apiKeyExpired_iff.mp expired with
      ⟨claims, vouched, -, api, sameId, sameOwner⟩
    exact ⟨claims, vouched, api, sameId.symm, sameOwner.symm⟩
  · intro header payload signature signature' now now' heeded heeded'
    rcases heeded.vouches with ⟨claims, vouched⟩
    rcases heeded'.vouches with ⟨claims', vouched'⟩
    have first := (Tokenizer.Authenticates.of_vouches vouched).signature
    have second := (Tokenizer.Authenticates.of_vouches vouched').signature
    exact first.trans second.symm
  · intro now token stores
    refine ⟨?_, identify_leaves⟩
    intro claims reports
    refine ⟨_, perform_identify_of_reportsExpiry reports, ?_⟩
    intro entry
    exact Table.find?_erase

/-- The stray token of the first API key of alice is authentic, and takes just this key away. -/
theorem only_authentic_claims_are_heeded_strayToken :
    keyedStores.keys.keys.find? ("alice", "n") = some aliceKey ∧
      ∃ keys : KeyStore,
        ((inMemoryServices tally plainConfig).identify afterDawn strayToken).perform keyedStores =
          (.error (.failure .apiKeyExpired), keyedStores.withKeys keys) ∧
        ∀ entry, keys.keys.find? entry =
          if entry = ("alice", "n") then none else keyedStores.keys.keys.find? entry := by
  rcases Tokenizer.parse_eq_apiKeyExpired_iff.mp parse_strayToken with
    ⟨claims, vouched, expired, api, id, owner⟩
  have acted := (only_authentic_claims_are_heeded tally plainConfig).2.2.2
  rcases (acted afterDawn strayToken keyedStores).1 claims ⟨vouched, expired, api⟩ with
    ⟨keys, performed, found⟩
  rw [id, owner] at found
  exact ⟨rfl, keys, performed, found⟩

end RelationAuth.Service
