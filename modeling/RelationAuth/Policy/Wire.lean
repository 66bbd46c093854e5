import RelationAuth.Json.Writer
import RelationAuth.Policy.EngineConfig
import RelationAuth.Policy.Schema
import RelationAuth.Policy.Tuple
import RelationAuth.Wire.Source

/-!
# Policy values on the wire

How requests, subjects, tuples, pages and schemas are read and written.
-/

namespace RelationAuth

/-- A kind of failure as it is read from its name. -/
def FailureKind.read? {ν : Type} [Source ν] (node : ν) : Option FailureKind :=
  Source.constant? FailureKind.ofName? node

namespace Policy

open Source

variable {ν : Type} [Source ν]

namespace PolicyRequest

/-- The names of the fields of a request. -/
def fieldNames : List String :=
  ["namespace", "subject_type", "subject_kind", "subject", "subject_relation", "relation",
    "permission", "object_type", "object"]

/-- A request; fields that are left out are empty. -/
def read? (node : ν) : Option PolicyRequest := do
  let record ← record? fieldNames node
  let field (name : String) : Option String := record.defaulted name "" text?
  return {
    namespaceName := ← field "namespace"
    subjectType := ← field "subject_type"
    subjectKind := ← field "subject_kind"
    subject := ← field "subject"
    subjectRelation := ← field "subject_relation"
    relation := ← field "relation"
    permission := ← field "permission"
    objectType := ← field "object_type"
    object := ← field "object" }

/-- A request as it is written, with all of its fields. -/
def toJson (request : PolicyRequest) : Json :=
  .object [
    ("namespace", .string request.namespaceName),
    ("subject_type", .string request.subjectType),
    ("subject_kind", .string request.subjectKind),
    ("subject", .string request.subject),
    ("subject_relation", .string request.subjectRelation),
    ("relation", .string request.relation),
    ("permission", .string request.permission),
    ("object_type", .string request.objectType),
    ("object", .string request.object)]

end PolicyRequest

/-- A set as it is read. -/
def SubjectSet.read? (node : ν) : Option SubjectSet := do
  let record ← record? ["namespace", "object", "relation"] node
  return {
    namespaceName := ← record.required "namespace" text?
    object := ← record.required "object" text?
    relation := ← record.required "relation" text? }

/-- A set as it is written. -/
def SubjectSet.toJson (holders : SubjectSet) : Json :=
  .object [
    ("namespace", .string holders.namespaceName),
    ("object", .string holders.object),
    ("relation", .string holders.relation)]

/-- A subject: a table of one entry, named for the form of the subject. -/
def Subject.read? (node : ν) : Option Subject :=
  match table? node with
  | some [("id", value)] => (text? value).map .id
  | some [("set", value)] => (SubjectSet.read? value).map .set
  | _ => none

/-- A subject as it is written, under the name of its variant. -/
def Subject.toJson : Subject → Json
  | .id name => .object [("id", .string name)]
  | .set holders => .object [("set", holders.toJson)]

/-- A tuple as it is read. -/
def RelationTuple.read? (node : ν) : Option RelationTuple := do
  let record ← record?
    ["namespace", "object_type", "object", "relation", "subject_type", "subject"] node
  return {
    namespaceName := ← record.required "namespace" text?
    objectType := ← record.required "object_type" text?
    object := ← record.required "object" text?
    relation := ← record.required "relation" text?
    subjectType := ← record.required "subject_type" text?
    subject := ← record.required "subject" Subject.read? }

/-- A tuple as it is written. -/
def RelationTuple.toJson (tuple : RelationTuple) : Json :=
  .object [
    ("namespace", .string tuple.namespaceName),
    ("object_type", .string tuple.objectType),
    ("object", .string tuple.object),
    ("relation", .string tuple.relation),
    ("subject_type", .string tuple.subjectType),
    ("subject", tuple.subject.toJson)]

/-- A page of tuples as it is read. -/
def TuplePage.read? (node : ν) : Option TuplePage := do
  let record ← record? ["tuples", "next_page_token"] node
  return {
    tuples := ← record.required "tuples" (list? RelationTuple.read?)
    nextPageToken := ← record.required "next_page_token" text? }

/-- A page of tuples as it is written. -/
def TuplePage.toJson (page : TuplePage) : Json :=
  .object [
    ("tuples", .array (page.tuples.map RelationTuple.toJson)),
    ("next_page_token", .string page.nextPageToken)]

/-- A page of bare ids. -/
def PolicyPage.read? (node : ν) : Option PolicyPage := do
  let record ← record? ["policies", "next_page_token"] node
  return {
    policies := ← record.required "policies" (list? text?)
    nextPageToken := ← record.required "next_page_token" text? }

/-- A page of ids as it is written. -/
def PolicyPage.toJson (page : PolicyPage) : Json :=
  .object [
    ("policies", .ofTexts page.policies),
    ("next_page_token", .string page.nextPageToken)]

/-- A filter as JSON, with null for the fields that admit every value. -/
def TupleFilter.toJson (filter : TupleFilter) : Json :=
  .object [
    ("namespace", .ofText? filter.namespaceName),
    ("object_type", .ofText? filter.objectType),
    ("object", .ofText? filter.object),
    ("relation", .ofText? filter.relation),
    ("subject_type", .ofText? filter.subjectType),
    ("subject", (filter.subject.map Subject.toJson).getD .null)]

/-- A link to a parent as it is read. -/
def ParentLink.read? (node : ν) : Option ParentLink := do
  let record ← record? ["relation", "parent_type"] node
  return {
    relation := ← record.required "relation" text?
    parentType := ← record.required "parent_type" text? }

/-- A link to a parent as it is written. -/
def ParentLink.toJson (link : ParentLink) : Json :=
  .object [("relation", .string link.relation), ("parent_type", .string link.parentType)]

/-- The definition of a type as it is read. -/
def TypeDefinition.read? (node : ν) : Option TypeDefinition := do
  let record ← record? ["name", "permissions", "parents"] node
  return {
    name := ← record.required "name" text?
    permissions := ← record.required "permissions" (dictionary? (list? text?))
    parents := ← record.required "parents" (list? ParentLink.read?) }

/-- The definition of a type as it is written. -/
def TypeDefinition.toJson (definition : TypeDefinition) : Json :=
  .object [
    ("name", .string definition.name),
    ("permissions", .object (definition.permissions.map fun (permission, relations) =>
      (permission, Json.ofTexts relations))),
    ("parents", .array (definition.parents.map ParentLink.toJson))]

/-- A schema as it is read. -/
def PermissionSchema.read? (node : ν) : Option PermissionSchema := do
  let record ← record? ["types"] node
  return { types := ← record.required "types" (dictionary? TypeDefinition.read?) }

/-- A schema as it is written. -/
def PermissionSchema.toJson (schema : PermissionSchema) : Json :=
  .object [
    ("types", .object (schema.types.map fun (name, definition) => (name, definition.toJson)))]

/-- The settings of a remote engine. -/
def EngineConfig.read? (node : ν) : Option EngineConfig := do
  let record ← record? ["read_url", "write_url", "timeout_secs", "default_namespace"] node
  return {
    readUrl := ← record.required "read_url" text?
    writeUrl := ← record.required "write_url" text?
    timeoutSecs := ← record.defaulted "timeout_secs" 5 word64?
    defaultNamespace := ← record.defaulted "default_namespace" "" text? }

/-- The settings of a remote engine as members of a JSON object. -/
def EngineConfig.members (config : EngineConfig) : List (String × Json) :=
  [("read_url", .string config.readUrl),
    ("write_url", .string config.writeUrl),
    ("timeout_secs", .ofNat config.timeoutSecs),
    ("default_namespace", .string config.defaultNamespace)]

end Policy

end RelationAuth
