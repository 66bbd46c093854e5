import RelationAuth.Action
import RelationAuth.Policy.Tuple

/-!
# Policy agents

A backend that answers policy questions implements five primitive operations.  Adding without
repetition, adding and deleting in batches, and the complete listings and counts are defined on top
of them, so that every backend honours the same contract.
-/

namespace RelationAuth.Policy

/-- The page size used when none is asked for. -/
def defaultLimit : Nat := 100

/-- The number of tuples that a complete listing asks for at once. -/
def drainPageSize : Nat := 1000

/-- The page size for a limit; zero asks for the default. -/
def effectiveLimit (limit : Nat) : Nat :=
  if limit = 0 then defaultLimit else limit

/-- The primitive operations of a backend with its state. -/
structure PolicyAgent (σ : Type) where
  /-- Succeeds if the subject holds the relation or permission on the object, and fails as
  unauthorized if it does not. -/
  check : PolicyRequest → Action σ PolicyError Unit
  /-- Write tuples; those that exist are left as they are. -/
  write : List RelationTuple → Action σ PolicyError Unit
  /-- Delete tuples by their keys; missing ones are passed over. -/
  delete : List RelationTuple → Action σ PolicyError Unit
  /-- One page of the tuples with the subject of a request, by a token and a limit. -/
  objects : PolicyRequest → String → Nat → Action σ PolicyError TuplePage
  /-- One page of the tuples with the object of a request, by a token and a limit. -/
  subjects : PolicyRequest → String → Nat → Action σ PolicyError TuplePage
  /-- The number of pages after which a complete listing is given up. -/
  pageBound : σ → Nat

/-- The token to go on with after a page: a fresh one, or none at the end of the listing. -/
def nextToken (current next : String) : Except PolicyError (Option String) :=
  if next = "" then .ok none
  else if next = current then .error (.paginationStalled next)
  else .ok (some next)

/-- The tuples of a listing from a page token on, with an allowance of pages. -/
def drain {σ : Type} (page : String → Action σ PolicyError TuplePage) :
    Nat → String → Action σ PolicyError (List RelationTuple)
  | 0, _ => throw .unfinished
  | allowance + 1, token => do
    let current ← page token
    match ← Action.ofExcept (nextToken token current.nextPageToken) with
    | none => return current.tuples
    | some next => return current.tuples ++ (← drain page allowance next)

/-- The number of tuples of a listing from a page token on, with an allowance of pages. -/
def drainCount {σ : Type} (page : String → Action σ PolicyError TuplePage) :
    Nat → String → Action σ PolicyError Nat
  | 0, _ => throw .unfinished
  | allowance + 1, token => do
    let current ← page token
    match ← Action.ofExcept (nextToken token current.nextPageToken) with
    | none => return current.tuples.length
    | some next => return current.tuples.length + (← drainCount page allowance next)

namespace PolicyAgent

/-- An agent whose state is a part of a larger one. -/
def onPart {σ τ : Type} (part : τ → σ) (replace : σ → τ → τ) (agent : PolicyAgent σ) :
    PolicyAgent τ where
  check request := (agent.check request).onPart part replace
  write tuples := (agent.write tuples).onPart part replace
  delete tuples := (agent.delete tuples).onPart part replace
  objects request token limit := (agent.objects request token limit).onPart part replace
  subjects request token limit := (agent.subjects request token limit).onPart part replace
  pageBound whole := agent.pageBound (part whole)

variable {σ : Type} (agent : PolicyAgent σ)

/-- Whether the agent already grants a tuple. -/
def isSatisfied (tuple : RelationTuple) : Action σ PolicyError Bool := do
  match ← Action.attempt (agent.check tuple.toCheckRequest) with
  | .ok () => return true
  | .error .unauthorized => return false
  | .error cause => Action.fail cause

/-- Ensure that a request is granted.  A request that is satisfied already writes nothing. -/
def add (request : PolicyRequest) : Action σ PolicyError Unit := do
  let tuple ← Action.ofExcept (RelationTuple.ofRequest request)
  if ← agent.isSatisfied tuple then return ()
  agent.write [tuple]

/-- Ensure that all of some requests are granted.  All of them are validated before anything is
checked, and all of them are checked before anything is written; what is not satisfied yet is
written at once, each tuple once. -/
def addMany (requests : List PolicyRequest) : Action σ PolicyError Unit := do
  let tuples ← Action.ofExcept (requests.mapM RelationTuple.ofRequest)
  let satisfied ← tuples.mapM agent.isSatisfied
  let pending := ((tuples.zip satisfied).filter (!·.2)).map Prod.fst
  let distinct := pending.eraseDups
  if distinct.isEmpty then return ()
  agent.write distinct

/-- Delete the tuple that a request describes. -/
def remove (request : PolicyRequest) : Action σ PolicyError Unit := do
  let tuple ← Action.ofExcept (RelationTuple.ofRequest request)
  agent.delete [tuple]

/-- Delete the tuples that some requests describe, all at once. -/
def removeMany (requests : List PolicyRequest) : Action σ PolicyError Unit := do
  let tuples ← Action.ofExcept (requests.mapM RelationTuple.ofRequest)
  if tuples.isEmpty then return ()
  agent.delete tuples

/-- One page of a listing in a direction, by a token and a limit. -/
def pageOf : Direction → PolicyRequest → String → Nat → Action σ PolicyError TuplePage
  | .objects => agent.objects
  | .subjects => agent.subjects

/-- One page of a complete listing. -/
def page (direction : Direction) (request : PolicyRequest) (token : String) :
    Action σ PolicyError TuplePage :=
  agent.pageOf direction request token drainPageSize

/-- The complete listing in a direction. -/
def all (direction : Direction) (request : PolicyRequest) :
    Action σ PolicyError (List RelationTuple) := do
  drain (agent.page direction request) (agent.pageBound (← get)) ""

/-- The number of tuples of the complete listing in a direction. -/
def count (direction : Direction) (request : PolicyRequest) : Action σ PolicyError Nat := do
  drainCount (agent.page direction request) (agent.pageBound (← get)) ""

/-- The tuples with the subject of a request. -/
def allObjects (request : PolicyRequest) : Action σ PolicyError (List RelationTuple) :=
  agent.all .objects request

/-- The number of tuples with the subject of a request. -/
def countObjects (request : PolicyRequest) : Action σ PolicyError Nat :=
  agent.count .objects request

/-- The tuples with the object of a request. -/
def allSubjects (request : PolicyRequest) : Action σ PolicyError (List RelationTuple) :=
  agent.all .subjects request

/-- The number of tuples with the object of a request. -/
def countSubjects (request : PolicyRequest) : Action σ PolicyError Nat :=
  agent.count .subjects request

end PolicyAgent

end RelationAuth.Policy
