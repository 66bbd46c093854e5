import RelationAuth.Groups.Error
import RelationAuth.Identity.Error
import RelationAuth.Policy.Error

/-!
# Causes of failure of the services

A service passes the causes of the components it is made of on to its callers, and adds a few of its
own.
-/

namespace RelationAuth.Service

open Groups Identity Policy

/-- What makes a service configuration unusable, apart from the settings of tokens. -/
inductive ServiceConfigFault where
  /-- The database of the policies has no address or no connections. -/
  | policyDatabase
  | policyEngine
  /-- The database of keys and groups has no connections. -/
  | storeConnections
  /-- A fault in other words. -/
  | described (text : String)
  deriving DecidableEq, Repr, Inhabited

/-- What a fault of a configuration says of itself. -/
def ServiceConfigFault.message : ServiceConfigFault → String
  | policyDatabase => "postgres policy backend needs a url and at least one connection"
  | policyEngine => "keto policy backend needs read and write urls"
  | storeConnections => "store.max_connections must be at least 1"
  | described text => text

/-- Why a service refuses or fails. -/
inductive ServiceError where
  | unauthenticated
  | apiKeyExpired
  | invalidKeyIssuedAt
  /-- An API key could not be issued. -/
  | issueUser (cause : ServiceError)
  /-- A policy check denied the request. -/
  | authorization (cause : PolicyError)
  | statusAlreadyAssigned
  | invalidConfig (fault : ServiceConfigFault)
  /-- The configuration could not be read. -/
  | configLoad
  | identity (cause : IdentityError)
  | policy (cause : PolicyError)
  | group (cause : GroupError)
  | storage (fault : StorageFault)
  deriving DecidableEq, Repr, Inhabited

namespace ServiceError

/-- The view of a policy error: a denial is told apart from every other cause. -/
def ofPolicy : PolicyError → ServiceError
  | .unauthorized => authorization .unauthorized
  | cause => policy cause

/-- The kind of failure that a cause is. -/
def kind : ServiceError → FailureKind
  | unauthenticated | apiKeyExpired => .authentication
  | invalidKeyIssuedAt | statusAlreadyAssigned | invalidConfig _ | configLoad => .validation
  | issueUser cause => cause.kind
  | authorization _ => .authorization
  | identity cause => cause.kind
  | policy cause => cause.kind
  | group cause => cause.kind
  | storage _ => .backend

/-- What a cause says of itself. -/
def message : ServiceError → Option String
  | unauthenticated => some "missing or invalid credentials provided"
  | apiKeyExpired => some "API key expired"
  | invalidKeyIssuedAt => some "invalid key issue time"
  | issueUser cause => cause.message.map ("failed to issue new key: " ++ ·)
  | authorization _ => some "failed to perform authorization over the entity"
  | statusAlreadyAssigned => some "status already assigned"
  | invalidConfig fault => some ("invalid configuration: " ++ fault.message)
  | configLoad => none
  | identity cause => cause.message
  | policy cause => cause.message
  | group cause => cause.message
  | storage fault => fault.message.map ("Database error: " ++ ·)

/-- What led to a service error.  A cause that is passed on in its own words is not listed again. -/
def causes : ServiceError → List (Option String)
  | issueUser cause => cause.message :: cause.causes
  | authorization cause => cause.message :: cause.causes
  | identity cause => cause.causes
  | policy cause => cause.causes
  | group cause => cause.causes
  | configLoad => [none]
  | storage fault => [fault.message]
  | _ => []

instance : Failure ServiceError where
  kind := kind
  message := message
  causes := causes

end ServiceError

end RelationAuth.Service
