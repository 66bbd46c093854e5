/-!
# Actions

An action reads and changes a state and ends with a value or stops early.  What it did to the state
before it stopped stays done, as with calls to stores that share no transaction.
-/

namespace RelationAuth

/-- Why an action ended without a value. -/
inductive Stop (ε : Type) where
  /-- It reports a cause to its caller. -/
  | failure (cause : ε)
  /-- It was aborted: something that it computes does not exist, as a time beyond the end of the
  calendar. -/
  | aborted
  /-- It had not ended when its allowance of steps was used up. -/
  | unfinished
  deriving DecidableEq, Repr

/-- A stop with its cause seen as a cause of another type. -/
def Stop.map {ε ε' : Type} (view : ε → ε') : Stop ε → Stop ε'
  | failure cause => failure (view cause)
  | aborted => aborted
  | unfinished => unfinished

/-- Computations on a state that may stop early. -/
abbrev Action (σ ε α : Type) := ExceptT (Stop ε) (StateM σ) α

namespace Action

variable {σ τ ε ε' α : Type}

/-- The run of an action from a state: its answer, and the state that it leaves. -/
def perform (action : Action σ ε α) (state : σ) : Except (Stop ε) α × σ :=
  StateT.run (ExceptT.run action) state

/-- The action that runs as a function of the state says. -/
def ofPerform (effect : σ → Except (Stop ε) α × σ) : Action σ ε α :=
  ExceptT.mk fun state => effect state

/-- The action that fails for a cause. -/
def fail (cause : ε) : Action σ ε α :=
  throw (.failure cause)

/-- An answer that is already known. -/
def ofExcept : Except ε α → Action σ ε α
  | .ok value => pure value
  | .error cause => fail cause

/-- An answer read off the state. -/
def query (read : σ → Except ε α) : Action σ ε α := do
  ofExcept (read (← get))

/-- A change of the state that may be refused; a refused change leaves the state alone. -/
def change (step : σ → Except ε σ) : Action σ ε Unit := do
  set (← query step)

/-- An action with its causes seen as causes of another type. -/
def mapFailure (view : ε → ε') (action : Action σ ε α) : Action σ ε' α :=
  ofPerform fun state =>
    match action.perform state with
    | (.ok value, after) => (.ok value, after)
    | (.error stop, after) => (.error (stop.map view), after)

/-- An action whose cause of failure is handed on as a value. -/
def attempt (action : Action σ ε α) : Action σ ε' (Except ε α) :=
  ofPerform fun state =>
    match action.perform state with
    | (.ok value, after) => (.ok (.ok value), after)
    | (.error (.failure cause), after) => (.ok (.error cause), after)
    | (.error .aborted, after) => (.error .aborted, after)
    | (.error .unfinished, after) => (.error .unfinished, after)

/-- An action on a part of the state, as an action on the whole of it. -/
def onPart (part : τ → σ) (replace : σ → τ → τ) (action : Action σ ε α) : Action τ ε α :=
  ofPerform fun whole =>
    match action.perform (part whole) with
    | (answer, after) => (answer, replace after whole)

end Action

end RelationAuth
