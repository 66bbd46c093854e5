import RelationAuth.Identity.Error

/-!
# Settings of tokens
-/

namespace RelationAuth.Identity

/-- The secret and the issuer of signed tokens, and how long each kind of login key lasts. -/
structure TokenConfig where
  secret : String
  issuer : String := "rustcare.auth"
  loginDurationSecs : Nat := 900
  refreshDurationSecs : Nat := 86400
  recoveryDurationSecs : Nat := 300
  deriving DecidableEq, Repr, Inhabited

namespace TokenConfig

/-- The durations by the names of their fields. -/
def durations (config : TokenConfig) : List (String × Nat) :=
  [("login_duration_secs", config.loginDurationSecs),
    ("refresh_duration_secs", config.refreshDurationSecs),
    ("recovery_duration_secs", config.recoveryDurationSecs)]

/-- The first fault of a configuration: a missing secret, a missing issuer, or a duration out of
range. -/
def fault? (config : TokenConfig) : Option TokenConfigFault :=
  if config.secret = "" then some .emptySecret
  else if config.issuer = "" then some .emptyIssuer
  else
    (config.durations.find? fun duration => duration.2 = 0 ∨ duration.2 > maxDurationSecs).map
      fun duration => .durationOutOfRange duration.1

/-- Whether secret and issuer are given and every duration lies in its bounds. -/
def validate (config : TokenConfig) : Except IdentityError Unit :=
  match config.fault? with
  | some fault => .error (.invalidConfig fault)
  | none => .ok ()

/-- A number of seconds as a duration, cut off at the longest one. -/
def bounded (seconds : Nat) : Nat :=
  min seconds maxDurationSecs

/-- How long an access key lasts, in seconds. -/
def loginDuration (config : TokenConfig) : Nat :=
  bounded config.loginDurationSecs

/-- How long a refresh key lasts, in seconds. -/
def refreshDuration (config : TokenConfig) : Nat :=
  bounded config.refreshDurationSecs

/-- How long a recovery key lasts, in seconds. -/
def recoveryDuration (config : TokenConfig) : Nat :=
  bounded config.recoveryDurationSecs

end TokenConfig

end RelationAuth.Identity
