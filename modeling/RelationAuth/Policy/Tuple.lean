import RelationAuth.Policy.Request

/-!
# Relation tuples

A tuple asserts that a subject holds a relation on an object.  Its identity is the namespace, the
object, the relation and the subject; the two types describe it and serve as filters.
-/

namespace RelationAuth.Policy

/-- A stored assertion. -/
structure RelationTuple where
  namespaceName : String
  objectType : String
  object : String
  relation : String
  subjectType : String
  subject : Subject
  deriving DecidableEq, Repr, Inhabited

/-- What makes two tuples the same assertion. -/
structure TupleKey where
  namespaceName : String
  object : String
  relation : String
  subject : Subject
  deriving DecidableEq, Repr, Inhabited

namespace RelationTuple

/-- What tells a tuple from others.  The types of its object and of its subject have no part in
it. -/
def key (tuple : RelationTuple) : TupleKey :=
  { namespaceName := tuple.namespaceName
    object := tuple.object
    relation := tuple.relation
    subject := tuple.subject }

/-- The tuple that a valid request describes.  A set brings its own namespace as the type of the
subject. -/
def ofRequest (request : PolicyRequest) : Except PolicyError RelationTuple := do
  request.validateWrite
  let subject := request.subjectRef
  let subjectType :=
    match subject with
    | .set holders => holders.namespaceName
    | .id _ => request.subjectType
  return {
    namespaceName := request.namespaceName
    objectType := request.objectType
    object := request.object
    relation := request.relation
    subjectType
    subject }

/-- The request that asks whether exactly this tuple holds. -/
def toCheckRequest (tuple : RelationTuple) : PolicyRequest :=
  { namespaceName := tuple.namespaceName
    subjectType := tuple.subjectType
    subject := tuple.subject.display
    relation := tuple.relation
    objectType := tuple.objectType
    object := tuple.object }

/-- A tuple as a text. -/
def display (tuple : RelationTuple) : String :=
  tuple.objectType ++ ":" ++ tuple.object ++ "#" ++ tuple.relation ++ "@" ++ tuple.subject.display

/-- The texts by which listings are ordered. -/
def sortKey (tuple : RelationTuple) : List String :=
  [tuple.objectType, tuple.object, tuple.relation] ++ tuple.subject.sortKey

/-- Whether a tuple may stand before another in a listing. -/
def precedes (left right : RelationTuple) : Bool :=
  Text.compareTexts left.sortKey right.sortKey != .gt

end RelationTuple

/-- A selection of tuples; a field that is not given admits every value. -/
structure TupleFilter where
  namespaceName : Option String := none
  objectType : Option String := none
  object : Option String := none
  relation : Option String := none
  subjectType : Option String := none
  subject : Option Subject := none
  deriving DecidableEq, Repr, Inhabited

/-- A text as a filter: the empty text admits every value. -/
def nonEmpty? (text : String) : Option String :=
  if text = "" then none else some text

namespace TupleFilter

/-- The tuples with the subject of a request, which tell the objects it relates to. -/
def objectsOf (request : PolicyRequest) : Except PolicyError TupleFilter :=
  if request.subject = "" then .error (.malformed .missingSubject)
  else
    let subject := request.subjectRef
    .ok {
      namespaceName := nonEmpty? request.namespaceName
      objectType := nonEmpty? request.objectType
      relation := nonEmpty? request.relationOrPermission
      subjectType := if subject.isSet then none else nonEmpty? request.subjectType
      subject := some subject }

/-- The tuples with the object of a request, which tell the subjects related to it. -/
def subjectsOf (request : PolicyRequest) : Except PolicyError TupleFilter :=
  if request.object = "" then .error (.malformed .missingObject)
  else
    .ok {
      namespaceName := nonEmpty? request.namespaceName
      objectType := nonEmpty? request.objectType
      object := some request.object
      relation := nonEmpty? request.relationOrPermission
      subjectType := nonEmpty? request.subjectType }

/-- The tuples that a listing for a request is about. -/
def selectedBy : Direction → PolicyRequest → Except PolicyError TupleFilter
  | .objects => objectsOf
  | .subjects => subjectsOf

/-- Whether a field of a filter admits a value. -/
def admits {α : Type} [DecidableEq α] (field : Option α) (value : α) : Bool :=
  field.all (· = value)

/-- Whether a filter admits a tuple, field by field. -/
def admitsTuple (filter : TupleFilter) (tuple : RelationTuple) : Bool :=
  admits filter.namespaceName tuple.namespaceName && admits filter.objectType tuple.objectType &&
    admits filter.object tuple.object && admits filter.relation tuple.relation &&
    admits filter.subjectType tuple.subjectType && admits filter.subject tuple.subject

end TupleFilter

/-- One page of a listing of tuples.  An empty token ends the listing. -/
structure TuplePage where
  tuples : List RelationTuple
  nextPageToken : String
  deriving DecidableEq, Repr, Inhabited

/-- One page of bare ids, as handed to callers. -/
structure PolicyPage where
  policies : List String
  nextPageToken : String
  deriving DecidableEq, Repr, Inhabited

end RelationAuth.Policy
