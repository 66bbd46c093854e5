import RelationAuth.Action
import RelationAuth.Identity.Key
import RelationAuth.Table

/-!
# Key stores

Keys are stored under their owner and their id together, so that nobody reaches a key of another
owner by its id.  A database store is described as far as it goes without a connection, as one whose
pool of connections is closed.
-/

namespace RelationAuth.Identity

/-- The keys of all owners. -/
structure KeyStore where
  /-- The keys by owner and id. -/
  keys : Table (String × String) Key
  deriving Inhabited

namespace KeyStore

/-- The store without keys. -/
def empty : KeyStore :=
  { keys := Table.empty }

/-- The number of keys. -/
def size (store : KeyStore) : Nat :=
  store.keys.size

/-- Whether no key is stored. -/
def isEmpty (store : KeyStore) : Bool :=
  store.size == 0

/-- A store with a key added under its subject and id, which must be free. -/
def save (store : KeyStore) (key : Key) : Except IdentityError KeyStore :=
  if store.keys.contains (key.subjectId, key.id) then .error .keyExists
  else .ok { keys := store.keys.insert (key.subjectId, key.id) key }

/-- The key of an owner with an id. -/
def retrieve (store : KeyStore) (owner id : String) : Except IdentityError Key :=
  match store.keys.find? (owner, id) with
  | some key => .ok key
  | none => .error .keyNotFound

/-- The store without the key of an owner with an id, if it has one. -/
def remove (store : KeyStore) (owner id : String) : KeyStore :=
  { keys := store.keys.erase (owner, id) }

end KeyStore

/-- The operations of a keeper of keys with its state. -/
structure KeyRepository (σ : Type) where
  /-- Add a key; answers its id. -/
  save : Key → Action σ IdentityError String
  /-- The key of an owner with an id. -/
  retrieve : String → String → Action σ IdentityError Key
  /-- Remove the key of an owner with an id; a missing one is passed over. -/
  remove : String → String → Action σ IdentityError Unit

namespace KeyRepository

/-- The repository that keeps keys in memory. -/
def inMemory : KeyRepository KeyStore where
  save key := do
    Action.change fun store => store.save key
    return key.id
  retrieve owner id := Action.query fun store => store.retrieve owner id
  remove owner id := Action.change fun store => .ok (store.remove owner id)

/-- A database repository whose pool of connections is closed.  A key without a time of issue is
refused before a connection is asked for. -/
def closed {σ : Type} : KeyRepository σ where
  save key := do
    if key.issuedAt.isNone then Action.fail .invalidKeyIssuedAt
    Action.fail (.database .poolClosed)
  retrieve _ _ := Action.fail (.database .poolClosed)
  remove _ _ := Action.fail (.database .poolClosed)

/-- A repository whose state is a part of a larger one. -/
def onPart {σ τ : Type} (part : τ → σ) (replace : σ → τ → τ) (repository : KeyRepository σ) :
    KeyRepository τ where
  save key := (repository.save key).onPart part replace
  retrieve owner id := (repository.retrieve owner id).onPart part replace
  remove owner id := (repository.remove owner id).onPart part replace

end KeyRepository

end RelationAuth.Identity
