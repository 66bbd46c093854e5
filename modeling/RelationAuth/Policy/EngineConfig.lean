/-!
# Settings of a remote engine
-/

namespace RelationAuth.Policy

/-- Where a remote relation-tuple engine is found. -/
structure EngineConfig where
  /-- The base address of the interface for checks and listings. -/
  readUrl : String
  /-- The base address of the interface for changes. -/
  writeUrl : String
  timeoutSecs : Nat := 5
  /-- The namespace of requests that name neither an object type nor a namespace. -/
  defaultNamespace : String := ""
  deriving DecidableEq, Repr, Inhabited

end RelationAuth.Policy
