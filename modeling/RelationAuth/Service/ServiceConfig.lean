import RelationAuth.Action
import RelationAuth.Config.Layers
import RelationAuth.Identity.Wire
import RelationAuth.Policy.Wire
import RelationAuth.Service.Error

/-!
# Configuration of the services

Which stores the services use, how tokens are signed and what is logged.  A configuration is read
from JSON or from the layers of a configuration tree, and it is used only after validation.
-/

namespace RelationAuth.Service

open Identity Policy Source

/-- Where the relation tuples are kept. -/
inductive PolicyBackend where
  | memory
  | database (url : String) (maxConnections : Nat)
  | engine (config : EngineConfig)
  deriving DecidableEq, Repr, Inhabited

/-- Where keys and groups are kept: in a database, or in memory where no address is given. -/
structure StoreConfig where
  databaseUrl : Option String := none
  maxConnections : Nat := 5
  deriving DecidableEq, Repr, Inhabited

/-- What is logged and in which form. -/
structure LogConfig where
  filter : String := "info,sqlx=warn"
  json : Bool := false
  deriving DecidableEq, Repr, Inhabited

/-- The configuration of the services. -/
structure ServiceConfig where
  token : TokenConfig
  policy : PolicyBackend := .memory
  store : StoreConfig := {}
  log : LogConfig := {}
  deriving DecidableEq, Repr, Inhabited

namespace PolicyBackend

/-- The number of connections to a database where none is given. -/
def defaultConnections : Nat := 5

/-- The backend that a tag names, with its settings. -/
def ofTagged? (tag : Json) (settings : Json) : Option PolicyBackend :=
  match tag with
  | .string "memory" =>
    match settings with
    | .array (_ :: _) => none
    | _ => some .memory
  | .string "postgres" => do
    let record ← record? ["url", "max_connections"] settings
    return .database (← record.required "url" text?)
      (← record.defaulted "max_connections" defaultConnections word32?)
  | .string "keto" => (EngineConfig.read? settings).map .engine
  | _ => none

/-- A backend: a table with its name and its settings, or a row that begins with its name.  Texts
and numbers are not converted here. -/
def ofJson? : Json → Option PolicyBackend
  | .object members =>
    match members.filter (·.1 == "backend") with
    | [(_, tag)] => ofTagged? tag (.object (members.filter (·.1 != "backend")))
    | _ => none
  | .array (tag :: settings) => ofTagged? tag (.array settings)
  | _ => none

/-- A backend, read without conversions.  All of it must be readable, also what is passed over. -/
def read? {ν : Type} [Source ν] (node : ν) : Option PolicyBackend := do
  let json := verbatim node
  let _ ← json.normalize?
  ofJson? json

/-- A backend as it is written, under its tag. -/
def toJson : PolicyBackend → Json
  | memory => .object [("backend", .string "memory")]
  | database url maxConnections =>
    .object [("backend", .string "postgres"), ("url", .string url),
      ("max_connections", .ofNat maxConnections)]
  | engine config => .object (("backend", .string "keto") :: config.members)

end PolicyBackend

namespace StoreConfig

/-- The settings of the stores as they are read. -/
def read? {ν : Type} [Source ν] (node : ν) : Option StoreConfig := do
  let record ← record? ["database_url", "max_connections"] node
  let standard : StoreConfig := {}
  return {
    databaseUrl := ← record.omissible "database_url" text?
    maxConnections := ← record.defaulted "max_connections" standard.maxConnections word32? }

/-- The settings of the stores as they are written. -/
def toJson (config : StoreConfig) : Json :=
  .object [("database_url", .ofText? config.databaseUrl),
    ("max_connections", .ofNat config.maxConnections)]

end StoreConfig

namespace LogConfig

/-- The settings of the log as they are read. -/
def read? {ν : Type} [Source ν] (node : ν) : Option LogConfig := do
  let record ← record? ["filter", "json"] node
  let standard : LogConfig := {}
  return {
    filter := ← record.defaulted "filter" standard.filter text?
    json := ← record.defaulted "json" standard.json flag? }

/-- The settings of the log as they are written. -/
def toJson (config : LogConfig) : Json :=
  .object [("filter", .string config.filter), ("json", .bool config.json)]

end LogConfig

namespace ServiceConfig

/-- A service configuration as it is read; only the settings of tokens must be given. -/
def read? {ν : Type} [Source ν] (node : ν) : Option ServiceConfig := do
  let record ← record? ["token", "policy", "store", "log"] node
  return {
    token := ← record.required "token" TokenConfig.read?
    policy := ← record.defaulted "policy" .memory PolicyBackend.read?
    store := ← record.defaulted "store" {} StoreConfig.read?
    log := ← record.defaulted "log" {} LogConfig.read? }

/-- A service configuration as it is written. -/
def toJson (config : ServiceConfig) : Json :=
  .object [("token", config.token.toJson), ("policy", config.policy.toJson),
    ("store", config.store.toJson), ("log", config.log.toJson)]

/-- The fault of a policy backend. -/
def backendFault? : PolicyBackend → Option ServiceConfigFault
  | .memory => none
  | .database url maxConnections =>
    if url = "" ∨ maxConnections = 0 then some .policyDatabase else none
  | .engine config =>
    if config.readUrl = "" ∨ config.writeUrl = "" then some .policyEngine else none

/-- The fault of the settings of the stores. -/
def storeFault? (config : StoreConfig) : Option ServiceConfigFault :=
  if config.databaseUrl.isSome ∧ config.maxConnections = 0 then some .storeConnections else none

/-- Whether the services can be built from a configuration.  The settings of tokens are looked at
first, then the policy backend and then the store. -/
def validate (config : ServiceConfig) : Except ServiceError Unit := do
  config.token.validate.mapError .identity
  match (backendFault? config.policy).or (storeFault? config.store) with
  | some fault => .error (.invalidConfig fault)
  | none => .ok ()

/-- The valid configuration that a directory and an environment give. -/
def load (directory : Directory) (environment : Environment) (path : Option String) :
    Except (Stop ServiceError) ServiceConfig := do
  let tree ←
    match ConfigLayer.load directory environment path with
    | .ok tree => .ok tree
    | .error .malformedFile => .error (.failure .configLoad)
    | .error .impossibleSetting => .error .aborted
  match read? tree with
  | none => .error (.failure .configLoad)
  | some config =>
    config.validate.mapError .failure
    return config

end ServiceConfig

end RelationAuth.Service
