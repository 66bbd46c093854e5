import RelationAuth.Proofs.Identity.Token
import RelationAuth.Proofs.Json.ReadBack

/-!
# Claims read back

The claims of a key are a flat object of texts and integers.  When its two times fit into 64 bits,
the object is read back as the claims that it was written from, and so is the token that carries it.
-/

namespace RelationAuth

namespace Identity

open Source

theorem KeyType.read?_toJson (keyType : KeyType) :
    KeyType.read? keyType.toJson = some keyType := by
  cases keyType <;> rfl

theorem signed64?_whole {value : Int} (signed : isSigned64 value = true) :
    signed64? (Json.number (.whole value)) = some value := by
  simp [signed64?, int?, signed]

theorem optional?_whole {value : Int} (signed : isSigned64 value = true) :
    optional? signed64? (Json.number (.whole value)) = some (some value) := by
  simp [optional?, isNull, signed64?_whole signed]

namespace Claims

/-- Whether the times of claims fit into 64 bits. -/
structure Bounded (claims : Claims) : Prop where
  iat : isSigned64 claims.iat = true
  exp : ∀ expiry ∈ claims.exp, isSigned64 expiry = true

variable {claims : Claims}

/-- What a record holds of a text that is left out where it is empty. -/
def textSlot (text : String) : Slot Json :=
  if text = "" then .missing else .filled (.string text)

/-- What a record holds of a second of expiry. -/
def expirySlot : Option Int → Slot Json
  | some expiry => .filled (.number (.whole expiry))
  | none => .missing

theorem filter_textMember (name text other : String) :
    (textMember name text).filter (·.1 == other) =
      if name = other then textMember name text else [] := by
  by_cases empty : text = "" <;> by_cases same : name = other <;> simp [textMember, empty, same]

theorem filter_expiry (exp : Option Int) (other : String) :
    (exp.map fun expiry => ("exp", Json.number (.whole expiry))).toList.filter (·.1 == other) =
      if "exp" = other then (exp.map fun expiry => ("exp", Json.number (.whole expiry))).toList
      else [] := by
  by_cases same : "exp" = other <;> rcases exp with _ | expiry <;> simp [same]

theorem record?_toJson (claims : Claims) :
    record? ["jti", "iss", "iat", "sub", "subject_id", "type", "exp"] claims.toJson =
      some [("jti", textSlot claims.jti), ("iss", .filled (.string claims.iss)),
        ("iat", .filled (.number (.whole claims.iat))), ("sub", textSlot claims.sub),
        ("subject_id", .filled (.string claims.subjectId)), ("type", .filled claims.keyType.toJson),
        ("exp", expirySlot claims.exp)] := by
  simp only [record?, toJson, table?]
  simp [recordOfTable?, filter_textMember, filter_expiry]
  by_cases noId : claims.jti = "" <;> by_cases noSubject : claims.sub = "" <;>
    rcases claims.exp with _ | expiry <;>
    simp [textMember, textSlot, expirySlot, noId, noSubject]

theorem defaulted_textSlot {record : Record Json} {name : String} (text : String)
    (slot : record.slot name = textSlot text) : record.defaulted name "" text? = some text := by
  by_cases empty : text = "" <;> simp [Record.defaulted, slot, textSlot, empty, text?]

theorem omissible_expirySlot {record : Record Json} {name : String} (exp : Option Int)
    (slot : record.slot name = expirySlot exp) (signed : ∀ expiry ∈ exp, isSigned64 expiry = true) :
    record.omissible name signed64? = some exp := by
  rcases exp with _ | expiry
  · simp [Record.omissible, Record.defaulted, slot, expirySlot]
  · simp [Record.omissible, Record.defaulted, slot, expirySlot, optional?_whole (signed expiry rfl)]

/-- Claims within the bounds of their numbers are read back from what is written of them. -/
theorem read?_toJson (bounded : claims.Bounded) : read? claims.toJson = some claims := by
  have issued := signed64?_whole bounded.iat
  rw [read?, record?_toJson]
  simp only [Option.bind_eq_bind, Option.bind_some]
  rw [defaulted_textSlot claims.jti rfl, defaulted_textSlot claims.sub rfl,
    omissible_expirySlot claims.exp rfl bounded.exp]
  simp [Record.required, Record.slot, List.lookup_cons, text?, issued, KeyType.read?_toJson]

/-- The written claims have no audience, so the payload is read as the claims alone. -/
theorem payload_read?_toJson (bounded : claims.Bounded) :
    Payload.read? claims.toJson = some { claims, hasAudience := false } := by
  have members := read?_toJson bounded
  rw [Payload.read?, members]
  simp only [toJson, table?]
  simp [recordOfTable?, filter_textMember, filter_expiry, Record.defaulted, Record.slot,
    List.lookup_cons]

/-- Claims are written as a flat object: every member of it is a text or an integer of 64 bits. -/
theorem toJson_flat (bounded : claims.Bounded) :
    ∃ members, claims.toJson = .object members ∧ ∀ member ∈ members,
      (∃ text, member.2 = .string text) ∨
        ∃ value, member.2 = .number (.whole value) ∧ isSigned64 value = true := by
  refine ⟨_, rfl, ?_⟩
  rintro ⟨name, value⟩ mem
  have number : isSigned64 claims.keyType.number = true := by
    cases claims.keyType <;> decide
  simp only [textMember, List.mem_append, List.mem_cons, List.not_mem_nil, or_false,
    Option.mem_toList, Option.map_eq_some_iff, Prod.mk.injEq] at mem
  rcases mem with (((jti | ⟨-, iss⟩ | ⟨-, iat⟩) | sub) | ⟨-, subjectId⟩ | ⟨-, keyType⟩) |
    ⟨expiry, exp, -, same⟩
  · split at jti
    · cases jti
    · exact .inl ⟨_, congrArg Prod.snd (List.mem_singleton.mp jti)⟩
  · exact .inl ⟨_, iss⟩
  · exact .inr ⟨_, iat, bounded.iat⟩
  · split at sub
    · cases sub
    · exact .inl ⟨_, congrArg Prod.snd (List.mem_singleton.mp sub)⟩
  · exact .inl ⟨_, subjectId⟩
  · exact .inr ⟨_, keyType, number⟩
  · exact .inr ⟨expiry, same.symm, bounded.exp expiry exp⟩

/-- The written claims are of a kind that a reader of texts gives back. -/
theorem legible_toJson (bounded : claims.Bounded) : claims.toJson.Legible := by
  rcases toJson_flat bounded with ⟨members, written, flat⟩
  rw [written]
  refine .object fun member mem => ?_
  rcases flat member mem with ⟨text, same⟩ | ⟨value, same, signed⟩
  · rw [same]
    exact .string text
  · simp only [isSigned64, Bool.and_eq_true, decide_eq_true_eq] at signed
    rw [same]
    exact .integer signed.1 (Int.lt_trans signed.2 (by decide))

theorem limitDepth_toJson (bounded : claims.Bounded) :
    claims.toJson.limitDepth Json.maxDepth = claims.toJson := by
  rcases toJson_flat bounded with ⟨members, written, flat⟩
  have unlimited : Json.limitMembers 126 members = members := by
    refine Json.limitMembers_eq_self fun member mem => ?_
    rcases flat member mem with ⟨text, same⟩ | ⟨value, same, -⟩ <;> simp [same, Json.limitDepth]
  simp [written, Json.limitDepth, Json.maxDepth, unlimited]

/-- The text of claims is read back as what the reader of a token sees of them. -/
theorem readBack (bounded : claims.Bounded) :
    (Json.ofOctets? (Utf8.encode claims.toJson.render)).bind Payload.read? =
      some { claims, hasAudience := false } := by
  rw [Json.ofOctets?_render (legible_toJson bounded) (limitDepth_toJson bounded)]
  exact payload_read?_toJson bounded

end Claims

/-- A signed token is parsed to the key of its claims, if it is the issuer's own and has not
expired. -/
theorem Tokenizer.parse_sign_of_bounded (tokenizer : Tokenizer) {claims : Claims}
    (bounded : claims.Bounded) (own : claims.iss = tokenizer.issuer) (now : Instant) :
    tokenizer.parse now (tokenizer.sign claims) = redeem claims now := by
  rw [tokenizer.parse_sign (Claims.readBack bounded)]
  simp [accept, own]

end Identity

end RelationAuth
