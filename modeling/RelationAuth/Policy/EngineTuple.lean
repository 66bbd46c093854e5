import RelationAuth.Policy.Wire

/-!
# Tuples of a remote engine

A remote engine knows tuples without types: the namespace of a tuple is the type of its object, or
else the namespace it was given, or else a default.  A subject is an id or a set.  In a query, a
tuple is spelled out parameter by parameter.
-/

namespace RelationAuth.Policy

/-- A tuple as a remote engine spells it. -/
structure EngineTuple where
  namespaceName : String
  object : String
  relation : String
  subjectId : Option String := none
  subjectSet : Option SubjectSet := none
  deriving DecidableEq, Repr, Inhabited

/-- The namespace in which an engine files a tuple: the type of its object, or else its namespace,
or else a default. -/
def engineNamespace (defaultNamespace namespaceName objectType : String) : String :=
  if objectType ≠ "" then objectType
  else if namespaceName ≠ "" then namespaceName
  else defaultNamespace

namespace EngineTuple

/-- The id of a subject that is not a set. -/
def idPart? : Subject → Option String
  | .id name => some name
  | .set _ => none

/-- The holders of a subject that is a set. -/
def setPart? : Subject → Option SubjectSet
  | .id _ => none
  | .set holders => some holders

/-- A tuple as an engine keeps it, for a default namespace. -/
def ofTuple (defaultNamespace : String) (tuple : RelationTuple) : EngineTuple :=
  { namespaceName := engineNamespace defaultNamespace tuple.namespaceName tuple.objectType
    object := tuple.object
    relation := tuple.relation
    subjectId := idPart? tuple.subject
    subjectSet := setPart? tuple.subject }

/-- A tuple that an engine returned for a request.  What the engine does not know is taken from the
request. -/
def toTuple (request : PolicyRequest) (tuple : EngineTuple) : RelationTuple :=
  { namespaceName := request.namespaceName
    objectType := tuple.namespaceName
    object := tuple.object
    relation := tuple.relation
    subjectType :=
      match tuple.subjectSet with
      | some holders => holders.namespaceName
      | none => request.subjectType
    subject :=
      match tuple.subjectSet with
      | some holders => .set holders
      | none => .id (tuple.subjectId.getD "") }

/-- The query parameters of a principal. -/
def idParams (id : String) : List (String × String) :=
  [("subject_id", id)]

/-- The query parameters of a set. -/
def setParams (holders : SubjectSet) : List (String × String) :=
  [("subject_set.namespace", holders.namespaceName), ("subject_set.object", holders.object),
    ("subject_set.relation", holders.relation)]

/-- The query parameters of a tuple. -/
def params (tuple : EngineTuple) : List (String × String) :=
  [("namespace", tuple.namespaceName), ("object", tuple.object), ("relation", tuple.relation)] ++
    (tuple.subjectId.map idParams).getD [] ++ (tuple.subjectSet.map setParams).getD []

/-- An engine tuple as it is read. -/
def read? (node : Json) : Option EngineTuple := do
  let record ← Source.record?
    ["namespace", "object", "relation", "subject_id", "subject_set"] node
  return {
    namespaceName := ← record.required "namespace" Source.text?
    object := ← record.required "object" Source.text?
    relation := ← record.required "relation" Source.text?
    subjectId := ← record.omissible "subject_id" Source.text?
    subjectSet := ← record.omissible "subject_set" SubjectSet.read? }

/-- An engine tuple as it is written; a part of the subject that it has not is left out. -/
def toJson (tuple : EngineTuple) : Json :=
  .object <|
    [("namespace", .string tuple.namespaceName), ("object", .string tuple.object),
      ("relation", .string tuple.relation)] ++
    (tuple.subjectId.map fun id => ("subject_id", Json.string id)).toList ++
    (tuple.subjectSet.map fun holders => ("subject_set", holders.toJson)).toList

end EngineTuple

/-- The query parameters of a subject. -/
def Subject.engineParams : Subject → List (String × String)
  | .id name => EngineTuple.idParams name
  | .set holders => EngineTuple.setParams holders

end RelationAuth.Policy
