import RelationAuth.Policy.Error
import RelationAuth.Policy.Subject

/-!
# Policy requests

A request selects or asserts relation tuples.  All of its fields are texts, and an empty text means
that the field is not given; which fields must be given depends on the operation.
-/

namespace RelationAuth.Policy

/-- A selector or an assertion of tuples, as calling services send it. -/
structure PolicyRequest where
  namespaceName : String := ""
  subjectType : String := ""
  subjectKind : String := ""
  subject : String := ""
  subjectRelation : String := ""
  relation : String := ""
  permission : String := ""
  objectType : String := ""
  object : String := ""
  deriving DecidableEq, Repr, Inhabited

/-- The directions of a listing: the objects that a subject relates to, or the subjects that relate
to an object. -/
inductive Direction where
  | objects
  | subjects
  deriving DecidableEq, Repr, Inhabited

/-- The fault of a request that does not name what a listing is about. -/
def Direction.missingAnchor : Direction → RequestFault
  | objects => .missingSubject
  | subjects => .missingObject

namespace PolicyRequest

/-- What a listing for a request is about: a subject whose objects are listed, or an object whose
subjects are. -/
def anchor (request : PolicyRequest) : Direction → String
  | .objects => request.subject
  | .subjects => request.object

/-- The relation that a request names, or else its permission. -/
def relationOrPermission (request : PolicyRequest) : String :=
  if request.relation = "" then request.permission else request.relation

/-- The subject of the tuple.  A relation of the subject turns a principal into the set of its
holders on that subject; a subject that names a set stays the set. -/
def subjectRef (request : PolicyRequest) : Subject :=
  match Subject.parse request.subject with
  | .id name =>
    if request.subjectRelation = "" then .id name
    else .set {
      namespaceName := request.subjectType
      object := name
      relation := request.subjectRelation }
  | .set holders => .set holders

/-- Whether a relation of the subject is given for a principal without a type. -/
def hasUntypedRelation (request : PolicyRequest) : Bool :=
  request.subjectRelation ≠ "" && request.subjectType = "" &&
    !(Subject.parse request.subject).isSet

/-- The first fault of the parts that checks and writes have in common: the subject, the type beside
its relation, and the object. -/
def commonFault? (request : PolicyRequest) : Option RequestFault :=
  if request.subject = "" then some .missingSubject
  else if request.hasUntypedRelation then some .untypedSubjectRelation
  else if request.object = "" then some .missingObject
  else none

/-- Whether a request can be checked: it names a subject, an object, and a relation or
permission. -/
def validateCheck (request : PolicyRequest) : Except PolicyError Unit :=
  match request.commonFault? with
  | some fault => .error (.malformed fault)
  | none =>
    if request.relation = "" ∧ request.permission = "" then
      .error (.malformed .missingRelationOrPermission)
    else .ok ()

/-- Whether a request can be written: it names a subject, an object and a relation. -/
def validateWrite (request : PolicyRequest) : Except PolicyError Unit :=
  match request.commonFault? with
  | some fault => .error (.malformed fault)
  | none => if request.relation = "" then .error (.malformed .missingRelation) else .ok ()

end PolicyRequest

end RelationAuth.Policy
