import Mathlib.Data.List.TakeWhile
import RelationAuth.Proofs.Identity.Token

/-!
# Authentic tokens

A token is authentic when its last part is the authentication code of the parts before it under the
secret of its reader.  Only what an authentic token says is read: whatever a reader answers about a
token, apart from refusing it, are the claims of an authentic token of its own issuer.
-/

namespace RelationAuth

namespace Identity

namespace TokenParts

/-- The parts of a cut make up the text, and the mark does not occur in the second one. -/
theorem of_splitAtLast? {mark : Char} {text before after : List Char}
    (split : splitAtLast? mark text = some (before, after)) :
    text = before ++ mark :: after ∧ mark ∉ after := by
  have whole := List.takeWhile_append_dropWhile (p := fun symbol => decide (symbol ≠ mark))
    (l := text.reverse)
  rcases rest : text.reverse.dropWhile (· ≠ mark) with _ | ⟨symbol, turned⟩
  · rw [splitAtLast?, rest] at split
    cases split
  · rw [splitAtLast?, rest] at split
    rw [rest] at whole
    cases split
    have found : symbol = mark := by
      have stopped := List.head?_dropWhile_not (fun symbol => decide (symbol ≠ mark)) text.reverse
      rw [rest] at stopped
      simpa using stopped
    refine ⟨?_, ?_⟩
    · have back := congrArg List.reverse whole
      rw [List.reverse_reverse, List.reverse_append, List.reverse_cons, found,
        List.append_assoc] at back
      exact back.symm
    · intro mem
      have passed := List.mem_takeWhile_imp (List.mem_reverse.mp mem)
      simp at passed

/-- A token is cut at its last two points: its parts make it up, and the last two of them hold no
point. -/
theorem ofText?_eq_some_iff {token : String} {parts : TokenParts} :
    ofText? token = some parts ↔
      token = parts.text ∧ '.' ∉ parts.payload.toList ∧ '.' ∉ parts.signature.toList := by
  constructor
  · intro cut
    rcases outer : splitAtLast? '.' token.toList with _ | ⟨signed, signature⟩
    · simp [ofText?, outer] at cut
    rcases inner : splitAtLast? '.' signed with _ | ⟨header, payload⟩
    · simp [ofText?, outer, inner] at cut
    simp only [ofText?, outer, inner, Option.bind_eq_bind, Option.bind_some, Option.pure_def,
      Option.some.injEq] at cut
    subst cut
    rcases of_splitAtLast? outer with ⟨whole, plainSignature⟩
    rcases of_splitAtLast? inner with ⟨front, plainPayload⟩
    refine ⟨?_, by simpa using plainPayload, by simpa using plainSignature⟩
    apply String.toList_injective
    simp [text, TokenParts.signed, whole, front]
  · rintro ⟨rfl, payload, signature⟩
    exact ofText?_text payload signature

/-- Parts without points are the only ones that their text falls apart into. -/
theorem eq_of_text_eq {parts other : TokenParts} (header : '.' ∉ parts.header.toList)
    (payload : '.' ∉ parts.payload.toList) (signature : '.' ∉ parts.signature.toList)
    (same : other.text = parts.text) : other = parts := by
  -- The text has two points only, so that the other parts have none either.
  have points := congrArg (fun text : String => text.toList.count '.') same
  have plain := List.count_eq_zero_of_not_mem header
  have plainPayload := List.count_eq_zero_of_not_mem payload
  have plainSignature := List.count_eq_zero_of_not_mem signature
  have point : ".".toList.count '.' = 1 := by decide
  simp only [text, signed, String.toList_append, List.count_append, point, plain, plainPayload,
    plainSignature] at points
  have otherPayload : '.' ∉ other.payload.toList := List.count_eq_zero.mp (by omega)
  have otherSignature : '.' ∉ other.signature.toList := List.count_eq_zero.mp (by omega)
  have cut := ofText?_text otherPayload otherSignature
  rw [same, ofText?_text payload signature] at cut
  exact (Option.some.inj cut).symm

end TokenParts

theorem point_not_mem_of_decodePart {α : Type} {read : Json → Option α} {part : String} {value : α}
    (decoded : decodePart read part = .ok value) : '.' ∉ part.toList := by
  rcases octets : Base64Url.decode? part with _ | octets'
  · simp [decodePart, octets] at decoded
  · exact Base64Url.point_not_mem_of_decode octets

namespace Tokenizer

variable {tokenizer : Tokenizer} {token : String} {claims : Claims} {now : Instant}

/-- Whether the parts of a token are those of an authentic token that makes some claims: the last
part is the authentication code of the text of the first two under the secret, these two are a
header with the algorithm of issued tokens and the claims, and the claims are the issuer's own and
name no audience. -/
structure Authenticates (tokenizer : Tokenizer) (parts : TokenParts) (claims : Claims) : Prop where
  signature : parts.signature =
    Base64Url.encode (Sha512.authenticate (Utf8.encode tokenizer.secret)
      (Utf8.encode (parts.header ++ "." ++ parts.payload)))
  header : decodePart TokenHeader.readAlgorithm? parts.header = .ok .hs512
  payload : decodePart Payload.read? parts.payload = .ok { claims, hasAudience := false }
  issuer : claims.iss = tokenizer.issuer

/-- Whether a token is authentic and makes some claims. -/
def Vouches (tokenizer : Tokenizer) (token : String) (claims : Claims) : Prop :=
  ∃ parts : TokenParts, token = parts.text ∧ tokenizer.Authenticates parts claims

/-- Whether a reader heeds what a token says: it reads a key, or it tells which API key has
expired. -/
def Heeds (tokenizer : Tokenizer) (now : Instant) (token : String) : Prop :=
  (∃ key, tokenizer.parse now token = .ok key) ∨
    ∃ id owner, tokenizer.parse now token = .error (.apiKeyExpired id owner)

theorem Authenticates.of_vouches {parts : TokenParts}
    (vouched : tokenizer.Vouches parts.text claims) : tokenizer.Authenticates parts claims := by
  rcases vouched with ⟨own, text, authentic⟩
  have signature : '.' ∉ own.signature.toList := by
    rw [authentic.signature]
    exact Base64Url.point_not_mem_encode _
  have same := TokenParts.eq_of_text_eq (point_not_mem_of_decodePart authentic.header)
    (point_not_mem_of_decodePart authentic.payload) signature text
  rw [same]
  exact authentic

/-- A token passes exactly if its signature is that of its first two parts, its header names the
algorithm and its payload can be read. -/
theorem verify_eq_ok_iff {payload : Payload} :
    tokenizer.verify token = .ok payload ↔
      ∃ parts : TokenParts, token = parts.text ∧
        parts.signature = tokenizer.signature parts.signed ∧
        decodePart TokenHeader.readAlgorithm? parts.header = .ok .hs512 ∧
        decodePart Payload.read? parts.payload = .ok payload := by
  constructor
  · intro verified
    rcases cut : TokenParts.ofText? token with _ | parts
    · simp [verify, cut, throw, throwThe, MonadExceptOf.throw] at verified
    rcases header : decodePart TokenHeader.readAlgorithm? parts.header with fault | algorithm
    · simp [verify, cut, header, bind, Except.bind] at verified
    by_cases named : algorithm = .hs512
    · by_cases signed : parts.signature = tokenizer.signature parts.signed
      · subst named
        simp only [verify, cut, header, bind, Except.bind, ne_eq, not_true_eq_false, if_false,
          signed] at verified
        exact ⟨parts, (TokenParts.ofText?_eq_some_iff.mp cut).1, signed, header, verified⟩
      · simp [verify, cut, header, bind, Except.bind, named, signed, throw, throwThe,
          MonadExceptOf.throw] at verified
    · simp [verify, cut, header, bind, Except.bind, named, throw, throwThe,
        MonadExceptOf.throw] at verified
  · rintro ⟨parts, rfl, signed, header, payload'⟩
    have plain : '.' ∉ parts.signature.toList := by
      rw [signed]
      exact Base64Url.point_not_mem_encode _
    have cut := TokenParts.ofText?_text (point_not_mem_of_decodePart payload') plain
    simp only [verify, cut, header, payload', signed, ne_eq, not_true_eq_false, if_false, bind,
      Except.bind]

/-- A token is verified and accepted exactly if it is authentic. -/
theorem verify_accept_eq_ok_iff :
    tokenizer.verify token >>= tokenizer.accept = .ok claims ↔ tokenizer.Vouches token claims := by
  have signed (parts : TokenParts) : tokenizer.signature parts.signed =
    Base64Url.encode (Sha512.authenticate (Utf8.encode tokenizer.secret)
      (Utf8.encode (parts.header ++ "." ++ parts.payload))) := rfl
  constructor
  · intro accepted
    rcases verified : tokenizer.verify token with fault | payload
    · simp [verified, bind, Except.bind] at accepted
    rw [verified] at accepted
    rcases accept_eq_ok_iff.mp accepted with ⟨rfl, issuer⟩
    rcases verify_eq_ok_iff.mp verified with ⟨parts, text, signature, header, payload⟩
    exact ⟨parts, text, signature.trans (signed parts), header, payload, issuer⟩
  · rintro ⟨parts, text, authentic⟩
    have verified := verify_eq_ok_iff.mpr ⟨parts, text,
      authentic.signature.trans (signed parts).symm, authentic.header, authentic.payload⟩
    rw [verified]
    exact accept_eq_ok_iff.mpr ⟨rfl, authentic.issuer⟩

/-- Claims are redeemed exactly if they have not expired and, where they have no expiry, are those
of an API key. -/
theorem redeem_eq_ok_iff {key : Key} :
    redeem claims now = .ok key ↔
      claims.expiredAt now.seconds = false ∧
        (claims.toKey.expiresAt = none → claims.keyType = .api) ∧ claims.toKey = key := by
  rw [redeem]
  split_ifs with expired endless
  · simp [expired]
  · simp [endless]
  · have lasting : claims.toKey.expiresAt = none → claims.keyType = .api := by
      intro none
      by_contra other
      exact endless ⟨none, other⟩
    rw [Except.ok.injEq]
    exact ⟨fun same => ⟨Bool.eq_false_iff.mpr expired, lasting, same⟩, fun read => read.2.2⟩

/-- An expired API key is reported with its own id and owner. -/
theorem redeem_eq_apiKeyExpired_iff {id owner : String} :
    redeem claims now = .error (.apiKeyExpired id owner) ↔
      claims.expiredAt now.seconds = true ∧ claims.keyType = .api ∧ claims.jti = id ∧
        claims.subjectId = owner := by
  rw [redeem]
  split_ifs with expired api endless
  · simp [expired, api]
  · simp [expired, api]
  · simp [expired]
  · simp [expired]

/-- Whatever a reader answers, apart from refusing the token, is what the claims of an authentic
token are good for. -/
theorem parse_eq_iff {answer : Except IdentityError Key}
    (heeded : ∀ fault, answer ≠ .error (.invalidToken fault)) :
    tokenizer.parse now token = answer ↔
      ∃ claims, tokenizer.Vouches token claims ∧ redeem claims now = answer := by
  simp only [← verify_accept_eq_ok_iff]
  rcases accepted : tokenizer.verify token >>= tokenizer.accept with fault | claims
  · have refused : tokenizer.parse now token = .error (.invalidToken fault) := by
      rw [parse_eq, accepted]
    simp [refused, (heeded fault).symm]
  · have read : tokenizer.parse now token = redeem claims now := by
      rw [parse_eq, accepted]
    simp [read]

theorem parse_eq_ok_iff {key : Key} :
    tokenizer.parse now token = .ok key ↔
      ∃ claims, tokenizer.Vouches token claims ∧ claims.expiredAt now.seconds = false ∧
        (claims.toKey.expiresAt = none → claims.keyType = .api) ∧ claims.toKey = key := by
  rw [parse_eq_iff (by simp)]
  simp only [redeem_eq_ok_iff]

theorem parse_eq_apiKeyExpired_iff {id owner : String} :
    tokenizer.parse now token = .error (.apiKeyExpired id owner) ↔
      ∃ claims, tokenizer.Vouches token claims ∧ claims.expiredAt now.seconds = true ∧
        claims.keyType = .api ∧ claims.jti = id ∧ claims.subjectId = owner := by
  rw [parse_eq_iff (by simp)]
  simp only [redeem_eq_apiKeyExpired_iff]

theorem Heeds.vouches (heeded : tokenizer.Heeds now token) :
    ∃ claims, tokenizer.Vouches token claims := by
  rcases heeded with ⟨key, read⟩ | ⟨id, owner, expired⟩
  · rcases parse_eq_ok_iff.mp read with ⟨claims, vouched, -⟩
    exact ⟨claims, vouched⟩
  · rcases parse_eq_apiKeyExpired_iff.mp expired with ⟨claims, vouched, -⟩
    exact ⟨claims, vouched⟩

end Tokenizer

end Identity

end RelationAuth
