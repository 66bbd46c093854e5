import RelationAuth.Calendar.Wire
import RelationAuth.Identity.Key
import RelationAuth.Identity.TokenConfig

/-!
# Keys, tokens and their settings on the wire
-/

namespace RelationAuth.Identity

open Source

variable {ν : Type} [Source ν]

/-- A type of keys as it is read from its number. -/
def KeyType.read? (node : ν) : Option KeyType :=
  (word32? node).bind fun number => (KeyType.ofNumber number).toOption

/-- A type of keys as it is written, by its number. -/
def KeyType.toJson (keyType : KeyType) : Json :=
  .ofNat keyType.number

/-- A key as it is read. -/
def Key.read? (node : ν) : Option Key := do
  let record ← record?
    ["id", "type", "issuer", "subject_id", "subject", "issued_at", "expires_at"] node
  return {
    id := ← record.required "id" text?
    keyType := ← record.required "type" KeyType.read?
    issuer := ← record.required "issuer" text?
    subjectId := ← record.required "subject_id" text?
    subject := ← record.required "subject" text?
    issuedAt := ← record.nullable "issued_at" Instant.read?
    expiresAt := ← record.nullable "expires_at" Instant.read? }

/-- A key as it is written. -/
def Key.toJson (key : Key) : Json :=
  .object [
    ("id", .string key.id),
    ("type", key.keyType.toJson),
    ("issuer", .string key.issuer),
    ("subject_id", .string key.subjectId),
    ("subject", .string key.subject),
    ("issued_at", Instant.toJson? key.issuedAt),
    ("expires_at", Instant.toJson? key.expiresAt)]

/-- A principal as it is read. -/
def Principal.read? (node : ν) : Option Principal := do
  let record ← record? ["id", "email"] node
  return {
    id := ← record.required "id" text?
    email := ← record.required "email" text? }

/-- A principal as it is written. -/
def Principal.toJson (principal : Principal) : Json :=
  .object [("id", .string principal.id), ("email", .string principal.email)]

/-- A token as it is read, with what it carries besides its text. -/
def Token.read? (node : ν) : Option Token := do
  let record ← record? ["value", "extra"] node
  return {
    value := ← record.required "value" text?
    extra := ← record.defaulted "extra" [] (dictionary? text?) }

/-- A token as JSON.  Companions are left out where there are none. -/
def Token.toJson (token : Token) : Json :=
  let companions : List (String × Json) :=
    if token.extra = [] then []
    else [("extra", .object (token.extra.map fun entry => (entry.1, .string entry.2)))]
  .object (("value", .string token.value) :: companions)

/-- A token configuration as it is read; only the secret must be given. -/
def TokenConfig.read? (node : ν) : Option TokenConfig := do
  let record ← record?
    ["secret", "issuer", "login_duration_secs", "refresh_duration_secs",
      "recovery_duration_secs"] node
  let secret ← record.required "secret" text?
  let standard : TokenConfig := { secret }
  return {
    secret
    issuer := ← record.defaulted "issuer" standard.issuer text?
    loginDurationSecs :=
      ← record.defaulted "login_duration_secs" standard.loginDurationSecs word64?
    refreshDurationSecs :=
      ← record.defaulted "refresh_duration_secs" standard.refreshDurationSecs word64?
    recoveryDurationSecs :=
      ← record.defaulted "recovery_duration_secs" standard.recoveryDurationSecs word64? }

/-- A token configuration as it is written. -/
def TokenConfig.toJson (config : TokenConfig) : Json :=
  .object [
    ("secret", .string config.secret),
    ("issuer", .string config.issuer),
    ("login_duration_secs", .ofNat config.loginDurationSecs),
    ("refresh_duration_secs", .ofNat config.refreshDurationSecs),
    ("recovery_duration_secs", .ofNat config.recoveryDurationSecs)]

end RelationAuth.Identity
