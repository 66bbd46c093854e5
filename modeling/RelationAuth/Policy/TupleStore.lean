import RelationAuth.Policy.PageToken
import RelationAuth.Policy.Tuple
import RelationAuth.Table

/-!
# The tuple store

Tuples are kept by subject: under each subject stand the edges that lead from it to objects, in the
order in which they were written.  A subject without edges is not kept.  Listings are ordered by
object type, object, relation and subject, so that a cursor counts the tuples before it.
-/

namespace RelationAuth.Policy

/-- What a tuple holds besides its subject. -/
structure Edge where
  namespaceName : String
  objectType : String
  object : String
  relation : String
  subjectType : String
  deriving DecidableEq, Repr, Inhabited

namespace Edge

/-- What a tuple says of its subject. -/
def ofTuple (tuple : RelationTuple) : Edge :=
  { namespaceName := tuple.namespaceName
    objectType := tuple.objectType
    object := tuple.object
    relation := tuple.relation
    subjectType := tuple.subjectType }

/-- The tuple that an edge makes with a subject. -/
def toTuple (edge : Edge) (subject : Subject) : RelationTuple :=
  { namespaceName := edge.namespaceName
    objectType := edge.objectType
    object := edge.object
    relation := edge.relation
    subjectType := edge.subjectType
    subject }

/-- Whether an edge has the key of a tuple with the same subject. -/
def sameKey (edge : Edge) (tuple : RelationTuple) : Bool :=
  edge.namespaceName = tuple.namespaceName && edge.object = tuple.object &&
    edge.relation = tuple.relation

end Edge

/-- A store of relation tuples. -/
structure TupleStore where
  bySubject : Table Subject (List Edge)
  deriving Inhabited

namespace TupleStore

/-- The store without tuples. -/
def empty : TupleStore :=
  { bySubject := Table.empty }

/-- The edges of a subject, in the order in which they were written. -/
def edgesOf (store : TupleStore) (subject : Subject) : List Edge :=
  (store.bySubject.find? subject).getD []

/-- The tuples that edges make with a subject. -/
def tuplesOf (subject : Subject) (edges : List Edge) : List RelationTuple :=
  edges.map (·.toTuple subject)

/-- All tuples, subject by subject. -/
def tuples (store : TupleStore) : List RelationTuple :=
  store.bySubject.rows.flatMap fun row => tuplesOf row.1 row.2

/-- The number of tuples. -/
def size (store : TupleStore) : Nat :=
  store.tuples.length

/-- Whether no tuple is stored. -/
def isEmpty (store : TupleStore) : Bool :=
  store.size == 0

/-- A store with one tuple written; a tuple whose key is stored is left as it is. -/
def writeOne (store : TupleStore) (tuple : RelationTuple) : TupleStore :=
  let edges := store.edgesOf tuple.subject
  if edges.any (·.sameKey tuple) then store
  else { bySubject := store.bySubject.insert tuple.subject (edges ++ [Edge.ofTuple tuple]) }

/-- A store with tuples written one by one. -/
def write (store : TupleStore) (tuples : List RelationTuple) : TupleStore :=
  tuples.foldl writeOne store

/-- A store without the tuple of a key.  A subject without edges is dropped. -/
def deleteOne (store : TupleStore) (tuple : RelationTuple) : TupleStore :=
  match store.bySubject.find? tuple.subject with
  | none => store
  | some edges =>
    match edges.filter fun edge => !edge.sameKey tuple with
    | [] => { bySubject := store.bySubject.erase tuple.subject }
    | kept => { bySubject := store.bySubject.insert tuple.subject kept }

/-- A store with tuples deleted one by one. -/
def delete (store : TupleStore) (tuples : List RelationTuple) : TupleStore :=
  tuples.foldl deleteOne store

/-- Whether a tuple with the key of another one is stored. -/
def holds (store : TupleStore) (tuple : RelationTuple) : Bool :=
  (store.edgesOf tuple.subject).any (·.sameKey tuple)

/-- The tuples that can satisfy a filter: those of its subject, if it names one. -/
def candidates (store : TupleStore) (filter : TupleFilter) : List RelationTuple :=
  match filter.subject with
  | some subject => tuplesOf subject (store.edgesOf subject)
  | none => store.tuples

/-- The tuples that a filter admits, in listing order. -/
def matching (store : TupleStore) (filter : TupleFilter) : List RelationTuple :=
  ((store.candidates filter).filter filter.admitsTuple).mergeSort RelationTuple.precedes

/-- The page of a list that a cursor starts, of at most a number of tuples. -/
def pageAt (all : List RelationTuple) (cursor limit : Nat) : TuplePage :=
  let page := (all.drop cursor).take limit
  let consumed := cursor + page.length
  { tuples := page
    nextPageToken := if consumed < all.length then PageToken.encode consumed else "" }

/-- The page of a listing that a token stands for. -/
def read (store : TupleStore) (filter : TupleFilter) (pageToken : String) (limit : Nat) :
    Except PolicyError TuplePage := do
  let cursor ← PageToken.decode pageToken
  return pageAt (store.matching filter) cursor limit

end TupleStore

end RelationAuth.Policy
