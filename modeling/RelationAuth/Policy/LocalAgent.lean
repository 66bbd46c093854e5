import RelationAuth.Policy.Agent
import RelationAuth.Policy.Checker

/-!
# The local agent

The local agent evaluates checks by itself, over a repository of tuples and a permission schema.
-/

namespace RelationAuth.Policy

/-- What a request asks of its object. -/
def PolicyRequest.goal (request : PolicyRequest) : Goal :=
  { namespaceName := request.namespaceName
    objectType := request.objectType
    object := request.object
    name := request.relationOrPermission }

namespace LocalAgent

variable {σ : Type}

/-- The answer to a check in a state of the repository. -/
def answer (repository : TupleRepository σ) (schema : PermissionSchema) (request : PolicyRequest)
    (state : σ) : Except PolicyError Unit := do
  request.validateCheck
  if ← check (repository.reader state) schema request.subjectRef request.goal then return ()
  throw .unauthorized

/-- Read one page of a listing in a direction. -/
def list (repository : TupleRepository σ) (direction : Direction) (request : PolicyRequest)
    (pageToken : String) (limit : Nat) : Action σ PolicyError TuplePage :=
  Action.query fun state => do
    let filter ← TupleFilter.selectedBy direction request
    repository.read filter pageToken (effectiveLimit limit) state

/-- The agent of a repository and a schema. -/
def agent (repository : TupleRepository σ) (schema : PermissionSchema) : PolicyAgent σ where
  check request := Action.query (answer repository schema request)
  write tuples := Action.change (repository.write tuples)
  delete tuples := Action.change (repository.delete tuples)
  objects := list repository .objects
  subjects := list repository .subjects
  pageBound := repository.pageBound

/-- The agent of a repository and a schema that has no fault. -/
def validAgent (repository : TupleRepository σ) (schema : PermissionSchema) :
    Except PolicyError (PolicyAgent σ) := do
  schema.validate
  return agent repository schema

/-- The agent that keeps its tuples in memory, under the schema of groups. -/
def inMemory : PolicyAgent TupleStore :=
  agent TupleRepository.inMemory PermissionSchema.groupsSchema

end LocalAgent

end RelationAuth.Policy
