import RelationAuth.Groups.GroupRepository
import RelationAuth.Identity.KeyStore
import RelationAuth.Identity.Tokenizer
import RelationAuth.Policy.Agent
import RelationAuth.Service.Error

/-!
# What the services are made of

The services bring together a keeper of keys, a policy agent, a keeper of groups, a source of ids
and the settings of tokens.  All of them act on one state.
-/

namespace RelationAuth.Service

open Groups Identity Policy

/-- The order in which checks that run side by side end. -/
structure Completion where
  order : List Group → List Group
  /-- Every check ends, and ends once. -/
  perm : ∀ groups, (order groups).Perm groups

/-- Checks that end in the order in which they began. -/
def Completion.inTurn : Completion where
  order groups := groups
  perm groups := List.Perm.refl groups

/-- The components of the services, with the type of the state they act on. -/
structure Services (σ : Type) where
  keys : KeyRepository σ
  agent : PolicyAgent σ
  groups : GroupRepository σ
  newId : Action σ IdentityError String
  config : TokenConfig
  completion : Completion

namespace Services

variable {σ : Type} (services : Services σ)

/-- The tokenizer of the configuration. -/
def tokenizer : Tokenizer :=
  services.config.tokenizer

/-- The key that a token describes. -/
def parseToken (now : Instant) (token : String) : Action σ ServiceError Key :=
  (Action.ofExcept (services.tokenizer.parse now token)).mapFailure .identity

/-- The token of a key. -/
def issueToken (key : Key) : Action σ ServiceError String :=
  (Action.ofExcept (services.tokenizer.issue key)).mapFailure .identity

end Services

/-- A time a number of seconds later.  There is none beyond the end of the calendar. -/
def laterBy {σ : Type} (moment : Instant) (span : Nat) : Action σ ServiceError Instant :=
  match moment.add? span with
  | some later => return later
  | none => throw .aborted

end RelationAuth.Service
