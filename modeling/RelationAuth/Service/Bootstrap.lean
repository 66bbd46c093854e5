import RelationAuth.Identity.RandomId
import RelationAuth.Policy.EngineAgent
import RelationAuth.Service.ServiceConfig
import RelationAuth.Service.Stores

/-!
# Building the services

A valid configuration says which components the services are made of.  Databases are not part of
this library, so a configuration that names one is refused as a database that does not answer.
-/

namespace RelationAuth.Service

open Identity Policy

/-- The policy agent of a backend.  A remote engine is reached over a network. -/
def PolicyBackend.agent (network : Network TupleStore) :
    PolicyBackend → Except ServiceError (PolicyAgent TupleStore)
  | .memory => .ok LocalAgent.inMemory
  | .database _ _ => .error (.storage .driver)
  | .engine config => .ok (EngineAgent.agent config network)

/-- The services of a configuration, with random ids for keys and groups. -/
def buildServices (network : Network TupleStore) (config : ServiceConfig) :
    Except ServiceError (Services (Stores TupleStore)) := do
  config.validate
  if config.store.databaseUrl.isSome then throw (.storage .driver)
  let agent ← config.policy.agent network
  return servicesOver agent RandomId.ofNumber config.token

end RelationAuth.Service
