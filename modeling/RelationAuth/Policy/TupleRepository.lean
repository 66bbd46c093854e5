import RelationAuth.Number.Bounds
import RelationAuth.Policy.TupleStore

/-!
# Tuple repositories

A repository keeps tuples in some state: the tuple store itself, or a database behind a pool of
connections.  Only the checks that a database repository makes before it needs a connection are
described here, as those of a repository whose pool is closed.
-/

namespace RelationAuth.Policy

/-- The operations of a keeper of tuples. -/
structure TupleRepository (σ : Type) where
  /-- Write tuples; those whose keys are kept already stay as they are. -/
  write : List RelationTuple → σ → Except PolicyError σ
  /-- Delete tuples by their keys; missing ones are passed over. -/
  delete : List RelationTuple → σ → Except PolicyError σ
  /-- Whether the key of a tuple is kept. -/
  holds : RelationTuple → σ → Except PolicyError Bool
  read : TupleFilter → String → Nat → σ → Except PolicyError TuplePage
  /-- A number of pages that no listing exceeds. -/
  pageBound : σ → Nat

namespace TupleRepository

/-- The repository that is a tuple store.  A page is empty only where a listing ends, so a listing
has no more pages than the store has tuples, and one more. -/
def inMemory : TupleRepository TupleStore where
  write tuples store := .ok (store.write tuples)
  delete tuples store := .ok (store.delete tuples)
  holds tuple store := .ok (store.holds tuple)
  read filter pageToken limit store := store.read filter pageToken limit
  pageBound store := store.size + 1

/-- The largest cursor that a database column of row numbers holds. -/
def maxRowCursor : Nat := signed64Bound - 1

/-- A database repository whose pool of connections is closed.  Page tokens are read before a
connection is asked for. -/
def closed {σ : Type} : TupleRepository σ where
  write _ _ := .error (.storage .poolClosed)
  delete _ _ := .error (.storage .poolClosed)
  holds _ _ := .error (.storage .poolClosed)
  read _ pageToken _ _ := do
    let cursor ← PageToken.decode pageToken
    if cursor > maxRowCursor then .error .invalidPageToken else .error (.storage .poolClosed)
  pageBound _ := 1

end TupleRepository

end RelationAuth.Policy
