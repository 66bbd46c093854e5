import RelationAuth.Identity.IdSource
import RelationAuth.Policy.LocalAgent
import RelationAuth.Service.GroupManagement

/-!
# Services in memory

The services over a tuple store, a key store and a group store in memory, with a local policy agent
and the built-in schema.
-/

namespace RelationAuth.Service

open Groups Identity Policy

/-- The state of services in memory.  The policy agent brings a state of its own. -/
structure Stores (α : Type) where
  policies : α
  keys : KeyStore := KeyStore.empty
  groups : GroupStore := GroupStore.empty
  ids : IdSource := {}
  deriving Inhabited

namespace Stores

variable {α : Type}

/-- The stores with other policies. -/
def withPolicies (policies : α) (stores : Stores α) : Stores α :=
  { stores with policies }

/-- The stores with other keys. -/
def withKeys (keys : KeyStore) (stores : Stores α) : Stores α :=
  { stores with keys }

/-- The stores with other groups. -/
def withGroups (groups : GroupStore) (stores : Stores α) : Stores α :=
  { stores with groups }

/-- The stores with another source of ids. -/
def withIds (ids : IdSource) (stores : Stores α) : Stores α :=
  { stores with ids }

end Stores

/-- The services over a policy agent, with keys and groups in memory. -/
def servicesOver {α : Type} (agent : PolicyAgent α) (numbered : Nat → String)
    (config : TokenConfig) : Services (Stores α) where
  keys := KeyRepository.inMemory.onPart Stores.keys Stores.withKeys
  agent := agent.onPart Stores.policies Stores.withPolicies
  groups := GroupRepository.inMemory.onPart Stores.groups Stores.withGroups
  newId := (IdSource.next numbered).onPart Stores.ids Stores.withIds
  config
  completion := Completion.inTurn

/-- The services over stores in memory, with the local agent. -/
def inMemoryServices (numbered : Nat → String) (config : TokenConfig) :
    Services (Stores TupleStore) :=
  servicesOver LocalAgent.inMemory numbered config

end RelationAuth.Service
