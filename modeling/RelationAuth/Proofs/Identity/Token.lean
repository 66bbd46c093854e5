import Mathlib.Tactic.SplitIfs
import RelationAuth.Identity.Tokenizer
import RelationAuth.Proofs.Encoding.Base64Bits

/-!
# Tokens read back

No part of a token has a point in it, so a token falls apart at its points into the parts that it was
made of, and a signed token is as good as the JSON of its claims.
-/

namespace RelationAuth

theorem Base64Url.point_not_mem_of_decode {text : String} {octets : List UInt8}
    (decoded : decode? text = some octets) : '.' ∉ text.toList := by
  have outside : '.' ∉ alphabet := by decide
  intro mem
  exact outside ((spells_of_decode? decoded).symbols '.' mem)

theorem Base64Url.point_not_mem_encode (octets : List UInt8) : '.' ∉ (encode octets).toList :=
  point_not_mem_of_decode (decode?_encode octets)

namespace Identity

namespace TokenParts

theorem splitAtLast?_append {mark : Char} {before after : List Char} (plain : mark ∉ after) :
    splitAtLast? mark (before ++ mark :: after) = some (before, after) := by
  have turned : (before ++ mark :: after).reverse = after.reverse ++ mark :: before.reverse := by
    simp
  have passed : ∀ symbol ∈ after.reverse, decide (symbol ≠ mark) = true := by
    intro symbol mem
    rw [decide_eq_true_iff]
    rintro rfl
    exact plain (List.mem_reverse.mp mem)
  rw [splitAtLast?, turned, List.dropWhile_append_of_pos passed,
    List.takeWhile_append_of_pos passed]
  simp

/-- The parts of a token are found again if the last two hold no point. -/
theorem ofText?_text {parts : TokenParts} (payload : '.' ∉ parts.payload.toList)
    (signature : '.' ∉ parts.signature.toList) : ofText? parts.text = some parts := by
  have point : ".".toList = ['.'] := rfl
  have outer : splitAtLast? '.' parts.text.toList =
      some (parts.signed.toList, parts.signature.toList) := by
    rw [text, String.toList_append, String.toList_append, point, List.append_assoc]
    exact splitAtLast?_append signature
  have inner : splitAtLast? '.' parts.signed.toList =
      some (parts.header.toList, parts.payload.toList) := by
    rw [signed, String.toList_append, String.toList_append, point, List.append_assoc]
    exact splitAtLast?_append payload
  simp [ofText?, outer, inner]

end TokenParts

theorem decodePart_encodePart {α : Type} {read : Json → Option α} {node : Json} {value : α}
    (readBack : (Json.ofOctets? (Utf8.encode node.render)).bind read = some value) :
    decodePart read (encodePart node) = .ok value := by
  simp only [decodePart, encodePart, Base64Url.decode?_encode, readBack]

theorem TokenHeader.readAlgorithm?_issued :
    (Json.ofOctets? (Utf8.encode TokenHeader.issued.render)).bind TokenHeader.readAlgorithm? =
      some .hs512 := by
  decide +kernel

/-- A signed token is verified to what the JSON of its claims is read as. -/
theorem Tokenizer.verify_sign (tokenizer : Tokenizer) {claims : Claims} {payload : Payload}
    (readBack : (Json.ofOctets? (Utf8.encode claims.toJson.render)).bind Payload.read? =
      some payload) : tokenizer.verify (tokenizer.sign claims) = .ok payload := by
  let parts : TokenParts :=
    { header := encodePart TokenHeader.issued
      payload := encodePart claims.toJson
      signature := tokenizer.signature
        (encodePart TokenHeader.issued ++ "." ++ encodePart claims.toJson) }
  have text : tokenizer.sign claims = parts.text := rfl
  have split : TokenParts.ofText? parts.text = some parts :=
    TokenParts.ofText?_text (Base64Url.point_not_mem_encode _) (Base64Url.point_not_mem_encode _)
  have header : decodePart TokenHeader.readAlgorithm? parts.header = .ok .hs512 :=
    decodePart_encodePart TokenHeader.readAlgorithm?_issued
  have signed : parts.signature = tokenizer.signature parts.signed := rfl
  have body : decodePart Payload.read? parts.payload = .ok payload := decodePart_encodePart readBack
  simp only [verify, text, split, header, body, signed, ne_eq, not_true_eq_false, if_false, bind,
    Except.bind]

/-! ### Both passes in one -/

namespace Tokenizer

/-- Whether a token is meant for this reader, whenever it is read: its issuer is the right one, and
it names no audience. -/
def accept (tokenizer : Tokenizer) (payload : Payload) : Except TokenFault Claims :=
  if payload.claims.iss ≠ tokenizer.issuer then .error .wrongIssuer
  else if payload.hasAudience then .error .wrongAudience
  else .ok payload.claims

/-- What claims are good for at a time: the key that they describe, or a failure that tells, if they
have expired and are those of an API key, which key it was. -/
def redeem (claims : Claims) (now : Instant) : Except IdentityError Key :=
  if claims.expiredAt now.seconds then
    .error (if claims.keyType = .api then .apiKeyExpired claims.jti claims.subjectId
      else .invalidToken .expired)
  else if claims.toKey.expiresAt = none ∧ claims.keyType ≠ .api then
    .error (.invalidToken (.missingClaim "exp"))
  else .ok claims.toKey

variable {tokenizer : Tokenizer} {now : Instant} {token : String} {payload : Payload}

/-- A payload is accepted exactly if it names no audience and the own issuer. -/
theorem accept_eq_ok_iff {claims : Claims} :
    tokenizer.accept payload = .ok claims ↔
      payload = { claims, hasAudience := false } ∧ claims.iss = tokenizer.issuer := by
  rcases payload with ⟨own, audience⟩
  rw [accept]
  constructor
  · intro accepted
    split_ifs at accepted with foreign named
    cases accepted
    exact ⟨congrArg (Payload.mk own) (Bool.eq_false_iff.mpr named), not_not.mp foreign⟩
  · rintro ⟨⟨⟩, issuer⟩
    rw [if_neg (not_not_intro issuer)]
    rfl

/-- Either pass reports what is wrong with the signature or with the form of the token. -/
theorem decodeClaims_of_verify_error {fault : TokenFault} (now : Instant)
    (failed : tokenizer.verify token = .error fault) (asksExpiry : Bool) :
    tokenizer.decodeClaims now asksExpiry token = .error fault := by
  rw [decodeClaims, failed]
  rfl

/-- The pass that does not ask for an expiry accepts what it could verify. -/
theorem decodeClaims_without_expiry (now : Instant)
    (verified : tokenizer.verify token = .ok payload) :
    tokenizer.decodeClaims now false token = tokenizer.accept payload := by
  simp only [decodeClaims, verified, bind, Except.bind, validate, accept, Bool.false_eq_true,
    false_and, if_false]
  split_ifs <;> rfl

/-- The pass that asks for an expiry looks at it before issuer and audience. -/
theorem decodeClaims_with_expiry (now : Instant)
    (verified : tokenizer.verify token = .ok payload) :
    tokenizer.decodeClaims now true token =
      if payload.claims.expiredAt now.seconds then .error .expired
      else tokenizer.accept payload := by
  simp only [decodeClaims, verified, bind, Except.bind, validate, accept, true_and]
  split_ifs <;> rfl

/-- A fault that the second pass finds is the fault of the token, whether the first one stops at the
expiry before it or not. -/
theorem parse_of_second_fault {fault : TokenFault}
    (first : tokenizer.decodeClaims now true token = .error fault ∨
      tokenizer.decodeClaims now true token = .error .expired)
    (second : tokenizer.decodeClaims now false token = .error fault) :
    tokenizer.parse now token = .error (.invalidToken fault) := by
  rcases first with first | first
  · cases fault <;> simp only [parse, first, second] <;> rfl
  · simp only [parse, first, second]
    rfl

/-- A token is read as if in one pass: what is right about its signature, its issuer and its
audience is asked first, and its expiry is left to what its claims are good for.  The pass that asks
for the expiry before the issuer and the audience makes no difference, since an expired token is
passed over again. -/
theorem parse_eq :
    tokenizer.parse now token =
      match tokenizer.verify token >>= tokenizer.accept with
      | .error fault => .error (.invalidToken fault)
      | .ok claims => redeem claims now := by
  rcases verified : tokenizer.verify token with fault | payload
  · have failed := decodeClaims_of_verify_error now verified
    exact parse_of_second_fault (.inl (failed true)) (failed false)
  have first := decodeClaims_with_expiry now verified
  have second := decodeClaims_without_expiry now verified
  have taken : Except.ok payload >>= tokenizer.accept = tokenizer.accept payload := rfl
  rw [taken]
  rcases accepted : tokenizer.accept payload with fault | claims
  · rw [accepted] at first second
    refine parse_of_second_fault ?_ second
    split_ifs at first
    · exact .inr first
    · exact .inl first
  rcases accept_eq_ok_iff.mp accepted with ⟨rfl, -⟩
  rw [accepted] at first second
  by_cases expired : claims.expiredAt now.seconds = true
  · rw [if_pos expired] at first
    simp only [parse, first, second, redeem, if_pos expired]
    split_ifs <;> rfl
  · rw [if_neg expired] at first
    have kind : claims.toKey.keyType = claims.keyType := rfl
    simp only [parse, first, redeem, if_neg expired, kind]
    split_ifs <;> rfl

end Tokenizer

/-- A signed token is parsed to the key of its claims, if these are acceptable and have not
expired. -/
theorem Tokenizer.parse_sign (tokenizer : Tokenizer) {claims : Claims} {payload : Payload}
    (readBack : (Json.ofOctets? (Utf8.encode claims.toJson.render)).bind Payload.read? =
      some payload) (now : Instant) :
    tokenizer.parse now (tokenizer.sign claims) =
      match tokenizer.accept payload with
      | .error fault => .error (.invalidToken fault)
      | .ok accepted => redeem accepted now := by
  rw [parse_eq, tokenizer.verify_sign readBack]
  rfl

end Identity

end RelationAuth
