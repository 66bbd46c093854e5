import RelationAuth.Policy.Agent

/-!
# The scripted agent

The scripted agent answers its primitive operations from a script and notes the calls.  It shows
what the operations defined on top of the primitives make of their answers.
-/

namespace RelationAuth.Policy

/-- A call of a primitive operation other than a check. -/
inductive AgentCall where
  | objects (pageToken : String) (limit : Nat)
  | subjects (pageToken : String) (limit : Nat)
  | write (tuples : List RelationTuple)
  | delete (tuples : List RelationTuple)
  deriving DecidableEq, Repr

/-- The answers still to be given, and the calls made so far. -/
structure AgentScript where
  /-- The outcomes of the next checks; when they are used up, checks are refused. -/
  checks : List (Except PolicyError Unit) := []
  /-- The outcomes of the next page reads; when they are used up, pages are empty. -/
  pages : List (Except PolicyError TuplePage) := []
  /-- The failure of every write and deletion, if they fail. -/
  writeFault : Option PolicyError := none
  /-- The calls made, in order. -/
  calls : List AgentCall := []

namespace ScriptedAgent

/-- The next outcome of a list, or another one when the list is used up, and the list after it. -/
def next {α : Type} (outcomes : List α) (otherwise : α) : α × List α :=
  match outcomes with
  | [] => (otherwise, [])
  | outcome :: rest => (outcome, rest)

/-- Answer a check with the next outcome. -/
def check : Action AgentScript PolicyError Unit := do
  let script ← get
  let (outcome, rest) := next script.checks (.error .unauthorized)
  set { script with checks := rest }
  Action.ofExcept outcome

/-- Note a call for a page and answer it with the next outcome. -/
def page (call : AgentCall) : Action AgentScript PolicyError TuplePage := do
  let script ← get
  let (outcome, rest) := next script.pages (.ok { tuples := [], nextPageToken := "" })
  set { script with pages := rest, calls := script.calls ++ [call] }
  Action.ofExcept outcome

/-- Note a change and answer it from the script. -/
def alter (call : AgentCall) : Action AgentScript PolicyError Unit := do
  let script ← get
  set { script with calls := script.calls ++ [call] }
  match script.writeFault with
  | some cause => Action.fail cause
  | none => return ()

/-- The agent that follows its script.  A listing ends where the script has no more pages. -/
def agent : PolicyAgent AgentScript where
  check _ := check
  write tuples := alter (.write tuples)
  delete tuples := alter (.delete tuples)
  objects _ pageToken limit := page (.objects pageToken limit)
  subjects _ pageToken limit := page (.subjects pageToken limit)
  pageBound script := script.pages.length + 1

end ScriptedAgent

end RelationAuth.Policy
