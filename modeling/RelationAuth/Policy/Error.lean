import RelationAuth.Failure

/-!
# Causes of failure of policy agents
-/

namespace RelationAuth.Policy

/-- What a policy request lacks. -/
inductive RequestFault where
  | missingSubject
  | missingObject
  | missingRelation
  | missingRelationOrPermission
  /-- A relation of the subject names a set only together with the type of the subject. -/
  | untypedSubjectRelation
  /-- A fault described by the agent that found it. -/
  | described (text : String)
  deriving DecidableEq, Repr, Inhabited

/-- What a fault of a request says of itself. -/
def RequestFault.message : RequestFault → String
  | missingSubject => "missing subject"
  | missingObject => "missing object"
  | missingRelation => "missing relation"
  | missingRelationOrPermission => "missing relation or permission"
  | untypedSubjectRelation => "subject relation requires a subject type"
  | described text => text

/-- What makes a permission schema unusable. -/
inductive SchemaFault where
  | ungrantedPermission (permission typeName : String)
  /-- A type inherits from a type that the schema does not declare. -/
  | undeclaredParent (typeName parentType : String)
  /-- A fault described by the agent that found it. -/
  | described (text : String)
  deriving DecidableEq, Repr, Inhabited

/-- What a fault of a schema says of itself. -/
def SchemaFault.message : SchemaFault → String
  | ungrantedPermission permission typeName =>
    "permission " ++ permission ++ " of type " ++ typeName ++ " is granted by no relation"
  | undeclaredParent typeName parentType =>
    "type " ++ typeName ++ " inherits from undeclared type " ++ parentType
  | described text => text

/-- Why a policy agent refuses or fails. -/
inductive PolicyError where
  | malformed (fault : RequestFault)
  | unauthorized
  | invalidPageToken
  | paginationStalled (token : String)
  | invalidSchema (fault : SchemaFault)
  | storage (fault : StorageFault)
  /-- A request to a remote engine could not be made or its answer not be read. -/
  | transport
  | remote (status : Nat) (text : String)
  deriving DecidableEq, Repr, Inhabited

namespace PolicyError

/-- The kind of failure that a cause is. -/
def kind : PolicyError → FailureKind
  | malformed _ | invalidPageToken => .validation
  | unauthorized => .authorization
  | paginationStalled _ | invalidSchema _ | storage _ | transport | remote _ _ => .backend

/-- What a cause says of itself. -/
def message : PolicyError → Option String
  | malformed fault => some ("malformed policy request: " ++ fault.message)
  | unauthorized => some "failed to perform authorization over the entity"
  | invalidPageToken => some "invalid page token"
  | paginationStalled token => some ("pagination did not advance past token " ++ token)
  | invalidSchema fault => some ("Invalid schema: " ++ fault.message)
  | storage fault => fault.message.map ("Storage error: " ++ ·)
  | transport => none
  | remote status text =>
    some ("remote policy engine returned " ++ toString status ++ ": " ++ text)

/-- What led to a cause, in words. -/
def causes : PolicyError → List (Option String)
  | storage fault => [fault.message]
  | transport => [none]
  | _ => []

instance : Failure PolicyError where
  kind := kind
  message := message
  causes := causes

end PolicyError

end RelationAuth.Policy
