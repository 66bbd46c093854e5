import RelationAuth.Identity.Wire

/-!
# Claims

The middle part of a token holds its claims: everything there is to know about a key, with times in
whole seconds.  Reading is strict about the claims of a key.  It also looks at two claims that no
key has: a token that names its audience is meant for somebody else, and a time before which a token
is not valid is ignored if it is a plain value.  A value of these two that cannot be read is no
audience and no time, as long as the reader gets past it.
-/

namespace RelationAuth.Identity

open Source

/-- What the text of a token says about its key. -/
structure Claims where
  /-- The id of the key. -/
  jti : String
  /-- The issuer of the token. -/
  iss : String
  /-- The second of issue. -/
  iat : Int
  /-- The address of the subject. -/
  sub : String
  subjectId : String
  keyType : KeyType
  /-- The last second of validity. -/
  exp : Option Int
  deriving DecidableEq, Repr, Inhabited

namespace Claims

/-- The claims of a key, which must have a time of issue.  Its times are cut down to their
seconds. -/
def ofKey (key : Key) : Except IdentityError Claims :=
  match key.issuedAt with
  | none => .error .invalidKeyIssuedAt
  | some issuedAt =>
    .ok {
      jti := key.id
      iss := key.issuer
      iat := issuedAt.seconds
      sub := key.subject
      subjectId := key.subjectId
      keyType := key.keyType
      exp := key.expiresAt.map (·.seconds) }

/-- The key that claims describe.  Seconds beyond the calendar are no times. -/
def toKey (claims : Claims) : Key :=
  { id := claims.jti
    keyType := claims.keyType
    issuer := claims.iss
    subjectId := claims.subjectId
    subject := claims.sub
    issuedAt := Instant.ofSeconds? claims.iat
    expiresAt := claims.exp.bind Instant.ofSeconds? }

/-- Whether claims had expired before a second.  A negative second of expiry is not compared. -/
def expiredAt (claims : Claims) (second : Int) : Bool :=
  claims.exp.any fun expiry => 0 ≤ expiry && expiry < second

/-- A text as a member of an object, left out where it is empty. -/
def textMember (name text : String) : List (String × Json) :=
  if text = "" then [] else [(name, .string text)]

/-- Claims as they are written: an empty id or subject and a missing expiry are left out. -/
def toJson (claims : Claims) : Json :=
  .object <|
    textMember "jti" claims.jti ++
    [("iss", .string claims.iss), ("iat", .number (.whole claims.iat))] ++
    textMember "sub" claims.sub ++
    [("subject_id", .string claims.subjectId), ("type", claims.keyType.toJson)] ++
    (claims.exp.map fun expiry => ("exp", Json.number (.whole expiry))).toList

/-- Claims as they are read. -/
def read? (node : Json) : Option Claims := do
  let record ← record? ["jti", "iss", "iat", "sub", "subject_id", "type", "exp"] node
  return {
    jti := ← record.defaulted "jti" "" text?
    iss := ← record.required "iss" text?
    iat := ← record.required "iat" signed64?
    sub := ← record.defaulted "sub" "" text?
    subjectId := ← record.required "subject_id" text?
    keyType := ← record.required "type" KeyType.read?
    exp := ← record.omissible "exp" signed64? }

end Claims

/-- The middle part of a token as its reader sees it. -/
structure Payload where
  claims : Claims
  /-- Whether the token names an audience. -/
  hasAudience : Bool
  deriving DecidableEq, Repr, Inhabited

namespace Payload

/-- Whether a value can be passed over where a time is expected. -/
def isPlain : Json → Bool
  | .array items => items.isEmpty
  | .object members => members.isEmpty
  | .unreadable halt => halt = .behind
  | _ => true

/-- Whether a value names an audience: a text or a list of texts. -/
def isAudience (node : Json) : Bool :=
  (text? node).isSome || (list? (text? : Json → Option String) node).isSome

/-- Whether a value names an audience, if a reader gets past the value. -/
def readAudience? (node : Json) : Option Bool :=
  match node.halt? with
  | none => some (isAudience node)
  | some .behind => some false
  | some .inside => none

/-- The middle part of a token, read from JSON.  It is an object, and none of the claims that are
looked at occurs twice in it. -/
def read? (node : Json) : Option Payload := do
  let members ← table? node
  let claims ← Claims.read? node
  let other ← recordOfTable? ["nbf", "aud"] members
  let _ ← other.defaulted "nbf" () fun value => if isPlain value then some () else none
  let hasAudience ← other.defaulted "aud" false readAudience?
  return { claims, hasAudience }

end Payload

end RelationAuth.Identity
