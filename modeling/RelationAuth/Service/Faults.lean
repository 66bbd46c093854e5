import RelationAuth.Service.Services

/-!
# Services that fail on purpose

A fault plan names calls of the components of the services that fail, so that it can be seen what
the services make of it.  A call that fails does nothing else.
-/

namespace RelationAuth.Service

open Groups Identity Policy

/-- A call that can be made to fail. -/
inductive FaultPoint where
  | agentCheck
  | agentCheckOn (object : String)
  | agentWrite
  | agentDelete
  | agentObjects
  | agentSubjects
  | keysSave
  | keysRetrieve
  | keysRemove
  | groupsSave
  | groupsList
  | groupsDelete
  | groupsAssign
  | groupsUnassign
  deriving DecidableEq, Repr

namespace FaultPoint

/-- The calls that have a name of their own. -/
def named : List (String × FaultPoint) :=
  [("agent.check", agentCheck), ("agent.write", agentWrite), ("agent.delete", agentDelete),
    ("agent.objects", agentObjects), ("agent.subjects", agentSubjects), ("keys.save", keysSave),
    ("keys.retrieve", keysRetrieve), ("keys.remove", keysRemove), ("groups.save", groupsSave),
    ("groups.list", groupsList), ("groups.delete", groupsDelete), ("groups.assign", groupsAssign),
    ("groups.unassign", groupsUnassign)]

/-- What the names of the checks on one object begin with. -/
def checkOnMark : List Char := "agent.check:".toList

/-- The point of failure with a name. -/
def ofName? (name : String) : Option FaultPoint :=
  if checkOnMark.isPrefixOf name.toList then
    some (agentCheckOn (String.ofList (name.toList.drop checkOnMark.length)))
  else named.lookup name

end FaultPoint

/-- The calls that fail, and how those of the policy agent fail. -/
structure FaultPlan where
  faults : List (FaultPoint × PolicyError) := []
  deriving DecidableEq, Repr, Inhabited

namespace FaultPlan

variable {σ : Type}

/-- The failure of a call, if it is to fail. -/
def fault? (plan : FaultPlan) (point : FaultPoint) : Option PolicyError :=
  plan.faults.lookup point

/-- The plan with a call made to fail, or to succeed again. -/
def switch (plan : FaultPlan) (point : FaultPoint) (fault : Option PolicyError) : FaultPlan :=
  let others := plan.faults.filter fun entry => entry.1 ≠ point
  { faults := (fault.map (point, ·)).toList ++ others }

/-- An action that fails for a cause, if there is one. -/
def failingWith {ε α : Type} (cause : Option ε) (action : Action σ ε α) : Action σ ε α :=
  match cause with
  | some cause => Action.fail cause
  | none => action

/-- The failure of a call of the key store, if it is to fail. -/
def keyFault? (plan : FaultPlan) (point : FaultPoint) : Option IdentityError :=
  (plan.fault? point).map fun _ => .database .poolTimedOut

/-- The failure of a call of the group store, if it is to fail. -/
def groupFault? (plan : FaultPlan) (point : FaultPoint) : Option GroupError :=
  (plan.fault? point).map fun _ => .database .poolClosed

/-- The failure of a check, if it is to fail. -/
def checkFault? (plan : FaultPlan) (request : PolicyRequest) : Option PolicyError :=
  (plan.fault? .agentCheck).or (plan.fault? (.agentCheckOn request.object))

/-- An agent that fails where a plan says so. -/
def agent (plan : FaultPlan) (inner : PolicyAgent σ) : PolicyAgent σ where
  check request := failingWith (plan.checkFault? request) (inner.check request)
  write tuples := failingWith (plan.fault? .agentWrite) (inner.write tuples)
  delete tuples := failingWith (plan.fault? .agentDelete) (inner.delete tuples)
  objects request token limit :=
    failingWith (plan.fault? .agentObjects) (inner.objects request token limit)
  subjects request token limit :=
    failingWith (plan.fault? .agentSubjects) (inner.subjects request token limit)
  pageBound := inner.pageBound

/-- A repository of keys that fails where a plan says so. -/
def keys (plan : FaultPlan) (inner : KeyRepository σ) : KeyRepository σ where
  save key := failingWith (plan.keyFault? .keysSave) (inner.save key)
  retrieve owner id := failingWith (plan.keyFault? .keysRetrieve) (inner.retrieve owner id)
  remove owner id := failingWith (plan.keyFault? .keysRemove) (inner.remove owner id)

/-- A repository of groups that fails where a plan says so. -/
def groups (plan : FaultPlan) (inner : GroupRepository σ) : GroupRepository σ :=
  { inner with
    save := fun group => failingWith (plan.groupFault? .groupsSave) (inner.save group)
    list := fun page => failingWith (plan.groupFault? .groupsList) (inner.list page)
    delete := fun id => failingWith (plan.groupFault? .groupsDelete) (inner.delete id)
    assign := fun id kind ids =>
      failingWith (plan.groupFault? .groupsAssign) (inner.assign id kind ids)
    unassign := fun id kind ids =>
      failingWith (plan.groupFault? .groupsUnassign) (inner.unassign id kind ids) }

/-- Services with failing calls. -/
def services (plan : FaultPlan) (inner : Services σ) : Services σ :=
  { inner with
    keys := plan.keys inner.keys
    agent := plan.agent inner.agent
    groups := plan.groups inner.groups }

end FaultPlan

end RelationAuth.Service
