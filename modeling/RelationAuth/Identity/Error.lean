import RelationAuth.Failure

/-!
# Causes of failure around keys and tokens
-/

namespace RelationAuth.Identity

/-- What is wrong with a signed token. -/
inductive TokenFault where
  /-- The text does not have the form of a token. -/
  | malformed
  | wrongSignature
  | wrongAlgorithm
  | unknownAlgorithm
  | noAlgorithm
  | expired
  | notYetValid
  | wrongIssuer
  | wrongAudience
  | wrongSubject
  | missingClaim (claim : String)
  /-- A part of the token is not base64 text. -/
  | notBase64
  /-- A part of the token is not the JSON that belongs there. -/
  | notJson
  | notUtf8
  deriving DecidableEq, Repr, Inhabited

namespace TokenFault

/-- The name by which a fault is known. -/
def name : TokenFault → String
  | malformed => "InvalidToken"
  | wrongSignature => "InvalidSignature"
  | wrongAlgorithm => "InvalidAlgorithm"
  | unknownAlgorithm => "InvalidAlgorithmName"
  | noAlgorithm => "MissingAlgorithm"
  | expired => "ExpiredSignature"
  | notYetValid => "ImmatureSignature"
  | wrongIssuer => "InvalidIssuer"
  | wrongAudience => "InvalidAudience"
  | wrongSubject => "InvalidSubject"
  | missingClaim _ => "MissingRequiredClaim"
  | notBase64 => "Base64"
  | notJson => "Json"
  | notUtf8 => "Utf8"

/-- What a fault says of itself, where no foreign component chooses the words. -/
def message : TokenFault → Option String
  | missingClaim claim => some ("Missing required claim: " ++ claim)
  | notBase64 | notJson | notUtf8 => none
  | fault => some fault.name

end TokenFault

/-- The longest duration of a token in seconds: ten years. -/
def maxDurationSecs : Nat := 10 * 365 * 24 * 60 * 60

/-- What makes a token configuration unusable. -/
inductive TokenConfigFault where
  | emptySecret
  | emptyIssuer
  /-- A duration is zero or longer than the longest one. -/
  | durationOutOfRange (field : String)
  /-- A fault in other words. -/
  | described (text : String)
  deriving DecidableEq, Repr, Inhabited

/-- What a fault of a configuration says of itself. -/
def TokenConfigFault.message : TokenConfigFault → String
  | emptySecret => "token secret must not be empty"
  | emptyIssuer => "token issuer must not be empty"
  | durationOutOfRange field => field ++ " must be between 1 and " ++ toString maxDurationSecs
  | described text => text

/-- Why keys or tokens are refused, or their store fails. -/
inductive IdentityError where
  /-- A token could not be signed. -/
  | signing (fault : TokenFault)
  | invalidToken (fault : TokenFault)
  /-- The token of an API key has expired; it tells which key, so that it can be removed. -/
  | apiKeyExpired (keyId subjectId : String)
  | invalidKeyIssuedAt
  | invalidKeyType (number : Nat)
  | keyNotFound
  | keyExists
  /-- The source of ids failed. -/
  | idGeneration (reason : String)
  | invalidConfig (fault : TokenConfigFault)
  | database (fault : StorageFault)
  deriving DecidableEq, Repr, Inhabited

namespace IdentityError

/-- The kind of failure that a cause is. -/
def kind : IdentityError → FailureKind
  | signing _ | invalidToken _ | apiKeyExpired _ _ => .authentication
  | invalidKeyIssuedAt | invalidKeyType _ | invalidConfig _ => .validation
  | keyNotFound => .notFound
  | keyExists => .conflict
  | idGeneration _ | database _ => .backend

/-- What a cause says of itself. -/
def message : IdentityError → Option String
  | signing fault => fault.message.map ("failed to sign token: " ++ ·)
  | invalidToken fault => fault.message.map ("invalid token: " ++ ·)
  | apiKeyExpired _ _ => some "API key expired"
  | invalidKeyIssuedAt => some "invalid key issue time"
  | invalidKeyType number => some ("invalid key type: " ++ toString number)
  | keyNotFound => some "key not found"
  | keyExists => some "key already exists"
  | idGeneration reason => some ("failed to generate identifier: " ++ reason)
  | invalidConfig fault => some ("invalid token configuration: " ++ fault.message)
  | database fault => fault.message.map ("Database error: " ++ ·)

/-- What led to a cause, in words. -/
def causes : IdentityError → List (Option String)
  | signing fault | invalidToken fault => [fault.message]
  | database fault => [fault.message]
  | _ => []

instance : Failure IdentityError where
  kind := kind
  message := message
  causes := causes

end IdentityError

end RelationAuth.Identity
