import RelationAuth.Encoding.Base64Url
import RelationAuth.Encoding.Sha512
import RelationAuth.Identity.Claims
import RelationAuth.Identity.TokenHeader
import RelationAuth.Text.Utf8

/-!
# Tokens

A token has three parts with points between them: the header and the claims, each as base64 text of
its JSON, and the base64 text of the authentication code of what stands before.  Nothing of a token
is looked at before its code is found to be right, apart from the algorithm in its header.
-/

namespace RelationAuth.Identity

/-- Issues and reads tokens under a secret. -/
structure Tokenizer where
  secret : String
  /-- The only issuer whose tokens are accepted. -/
  issuer : String
  deriving DecidableEq, Repr, Inhabited

/-- The tokenizer with the secret and the issuer of a configuration. -/
def TokenConfig.tokenizer (config : TokenConfig) : Tokenizer :=
  { secret := config.secret, issuer := config.issuer }

/-- The parts of a token. -/
structure TokenParts where
  header : String
  payload : String
  signature : String
  deriving DecidableEq, Repr, Inhabited

namespace TokenParts

/-- The text that the signature covers. -/
def signed (parts : TokenParts) : String :=
  parts.header ++ "." ++ parts.payload

/-- The token of its parts. -/
def text (parts : TokenParts) : String :=
  parts.signed ++ "." ++ parts.signature

/-- The parts of a text before and after the last occurrence of a mark. -/
def splitAtLast? (mark : Char) (text : List Char) : Option (List Char × List Char) :=
  match text.reverse.dropWhile (· ≠ mark) with
  | [] => none
  | _ :: before => some (before.reverse, (text.reverse.takeWhile (· ≠ mark)).reverse)

/-- The parts of a token, which the last two points of its text separate. -/
def ofText? (token : String) : Option TokenParts := do
  let (signed, signature) ← splitAtLast? '.' token.toList
  let (header, payload) ← splitAtLast? '.' signed
  return {
    header := String.ofList header
    payload := String.ofList payload
    signature := String.ofList signature }

end TokenParts

/-- A part of a token that carries JSON. -/
def encodePart (value : Json) : String :=
  Base64Url.encode (Utf8.encode value.render)

/-- What a part of a token carries; it may fail to be base64 text, or its octets to be JSON that can
be read. -/
def decodePart {α : Type} (read : Json → Option α) (part : String) : Except TokenFault α :=
  match Base64Url.decode? part with
  | none => .error .notBase64
  | some octets =>
    match (Json.ofOctets? octets).bind read with
    | none => .error .notJson
    | some value => .ok value

namespace Tokenizer

/-- The signature of a text under the secret. -/
def signature (tokenizer : Tokenizer) (signed : String) : String :=
  Base64Url.encode (Sha512.authenticate (Utf8.encode tokenizer.secret) (Utf8.encode signed))

/-- The signed token of claims. -/
def sign (tokenizer : Tokenizer) (claims : Claims) : String :=
  let signed := encodePart TokenHeader.issued ++ "." ++ encodePart claims.toJson
  signed ++ "." ++ tokenizer.signature signed

/-- The token of a key, which must have a time of issue. -/
def issue (tokenizer : Tokenizer) (key : Key) : Except IdentityError String := do
  return tokenizer.sign (← Claims.ofKey key)

/-- What a token says, if its signature is right. -/
def verify (tokenizer : Tokenizer) (token : String) : Except TokenFault Payload := do
  match TokenParts.ofText? token with
  | none => throw .malformed
  | some parts =>
    let algorithm ← decodePart TokenHeader.readAlgorithm? parts.header
    if algorithm ≠ .hs512 then throw .wrongAlgorithm
    if parts.signature ≠ tokenizer.signature parts.signed then throw .wrongSignature
    decodePart Payload.read? parts.payload

/-- Whether what a token says is meant for this reader at a time: it has not expired, where that is
asked, its issuer is the right one, and it names no audience.  The first of these that fails is the
fault. -/
def validate (tokenizer : Tokenizer) (now : Instant) (asksExpiry : Bool) (payload : Payload) :
    Except TokenFault Claims := do
  if asksExpiry ∧ payload.claims.expiredAt now.seconds then throw .expired
  if payload.claims.iss ≠ tokenizer.issuer then throw .wrongIssuer
  if payload.hasAudience then throw .wrongAudience
  return payload.claims

/-- One pass over a token: its signature and then what it says. -/
def decodeClaims (tokenizer : Tokenizer) (now : Instant) (asksExpiry : Bool) (token : String) :
    Except TokenFault Claims := do
  tokenizer.validate now asksExpiry (← tokenizer.verify token)

/-- The key that a token describes, if it has not expired at a time.  Only API keys may do without
an expiry.  A token that has expired is passed over once more, since the failure of an expired API
key tells which key it was. -/
def parse (tokenizer : Tokenizer) (now : Instant) (token : String) : Except IdentityError Key := do
  match tokenizer.decodeClaims now true token with
  | .error .expired =>
    match tokenizer.decodeClaims now false token with
    | .error fault => throw (.invalidToken fault)
    | .ok claims =>
      if claims.keyType = .api then throw (.apiKeyExpired claims.jti claims.subjectId)
      throw (.invalidToken .expired)
  | .error fault => throw (.invalidToken fault)
  | .ok claims =>
    let key := claims.toKey
    if key.expiresAt = none ∧ key.keyType ≠ .api then throw (.invalidToken (.missingClaim "exp"))
    return key

end Tokenizer

end RelationAuth.Identity
