import RelationAuth.Calendar.Instant
import RelationAuth.Identity.Error

/-!
# Keys

A key says who may act until when.  Login keys (access, refresh and recovery) live in their tokens
alone; API keys are stored as well, so that they can be revoked.
-/

namespace RelationAuth.Identity

/-- What a key is good for. -/
inductive KeyType where
  /-- Acting as its subject. -/
  | access
  /-- Renewing a login. -/
  | refresh
  | recovery
  /-- Acting as its subject from a program. -/
  | api
  deriving DecidableEq, Repr, Inhabited

namespace KeyType

/-- All types, in the order of their numbers. -/
def all : List KeyType :=
  [access, refresh, recovery, api]

/-- The number of a type of keys. -/
def number : KeyType → Nat
  | access => 0
  | refresh => 1
  | recovery => 2
  | api => 3

/-- The name of a type of keys. -/
def name : KeyType → String
  | access => "access"
  | refresh => "refresh"
  | recovery => "recovery"
  | api => "api"

/-- The type of keys with a number. -/
def ofNumber (number : Nat) : Except IdentityError KeyType :=
  match all.find? fun keyType => keyType.number == number with
  | some keyType => .ok keyType
  | none => .error (.invalidKeyType number)

end KeyType

/-- The principal that a token identifies. -/
structure Principal where
  id : String
  email : String
  deriving DecidableEq, Repr, Inhabited

/-- What a token stands for. -/
structure Key where
  id : String
  keyType : KeyType
  issuer : String
  subjectId : String
  subject : String
  issuedAt : Option Instant
  expiresAt : Option Instant
  deriving DecidableEq, Repr, Inhabited

namespace Key

/-- Whether a key has expired at a time.  Only API keys may do without an expiry. -/
def expiredAt (key : Key) (now : Instant) : Bool :=
  match key.expiresAt with
  | none => key.keyType ≠ .api
  | some expiry => expiry.before now

/-- The principal that a key speaks for. -/
def principal (key : Key) : Principal :=
  { id := key.subjectId, email := key.subject }

end Key

/-- A signed token as handed to a caller, with companions by name. -/
structure Token where
  value : String
  extra : List (String × String) := []
  deriving DecidableEq, Repr, Inhabited

namespace Token

/-- The name under which a token carries a refresh token. -/
def refreshName : String := "refresh_token"

/-- A token that carries a refresh token with it. -/
def withRefresh (value refresh : String) : Token :=
  { value, extra := [(refreshName, refresh)] }

/-- The refresh token that rides along, if there is one. -/
def refreshToken? (token : Token) : Option String :=
  token.extra.lookup refreshName

end Token

end RelationAuth.Identity
