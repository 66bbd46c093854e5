/-!
# Failures as callers see them

Every failure of the library is a value of an inductive type of causes.  What a caller may learn
from it is fixed here: a kind, a stable code, and a message.  A failure of the backing systems is
reported by a generic sentence, so that no cause of the inside reaches the outside; every other
failure is reported in its own words.
-/

namespace RelationAuth

/-- The category of a failure that a caller is told. -/
inductive FailureKind where
  | authentication
  | authorization
  | validation
  | notFound
  | conflict
  | backend
  deriving DecidableEq, Repr, Inhabited

namespace FailureKind

/-- All kinds, in the order of their declaration. -/
def all : List FailureKind :=
  [authentication, authorization, validation, notFound, conflict, backend]

/-- The name by which a kind of failure is known outside. -/
def name : FailureKind → String
  | authentication => "authentication"
  | authorization => "authorization"
  | validation => "validation"
  | notFound => "not_found"
  | conflict => "conflict"
  | backend => "backend"

/-- The kind of failure with a name. -/
def ofName? (text : String) : Option FailureKind :=
  all.find? fun kind => kind.name == text

/-- The code of a kind of failure. -/
def code : FailureKind → String
  | authentication => "AUTH_2001"
  | authorization => "AUTHZ_3001"
  | validation => "VALIDATION_1001"
  | notFound => "NOT_FOUND_4001"
  | conflict => "CONFLICT_4091"
  | backend => "BACKEND_5001"

/-- The sentence presented for a kind when nothing more may be said. -/
def sentence : FailureKind → String
  | authentication => "missing or invalid credentials provided"
  | authorization => "failed to perform authorization over the entity"
  | validation => "malformed entity specification"
  | notFound => "entity not found"
  | conflict => "entity already exists"
  | backend => "operation failed"

/-- Whether a failure of this kind is the caller's own and may be shown verbatim. -/
def isClient (kind : FailureKind) : Bool :=
  kind != backend

end FailureKind

/-- A type of failure causes.  The words of a cause are `none` where a foreign component chooses
them, such as a database driver or an HTTP client. -/
class Failure (ε : Type) where
  /-- The category of a cause. -/
  kind : ε → FailureKind
  /-- The full description of a cause. -/
  message : ε → Option String
  /-- The descriptions of what led to a cause, nearest first. -/
  causes : ε → List (Option String)

/-- The text that may be handed to a caller: the description of a failure that is the caller's own,
and the generic sentence for a failure of the backing systems. -/
def publicMessage {ε : Type} [Failure ε] (cause : ε) : Option String :=
  if (Failure.kind cause).isClient then Failure.message cause
  else some (Failure.kind cause).sentence

/-- What goes wrong between a store and its database. -/
inductive StorageFault where
  | poolClosed
  /-- No connection became free in time. -/
  | poolTimedOut
  /-- Anything else the database driver reports, in the driver's own words. -/
  | driver
  deriving DecidableEq, Repr, Inhabited

/-- What a fault says of itself, where no foreign component chooses the words. -/
def StorageFault.message : StorageFault → Option String
  | poolClosed => some "attempted to acquire a connection on a closed pool"
  | poolTimedOut => some "pool timed out while waiting for an open connection"
  | driver => none

end RelationAuth
