import RelationAuth.Calendar.Wire
import RelationAuth.Groups.Draft
import RelationAuth.Groups.Page

/-!
# Groups on the wire
-/

namespace RelationAuth.Groups

open Source

/-- A status as it is read from its name. -/
def Status.read? (node : Json) : Option Status :=
  constant? (fun name => (Status.ofName name).toOption) node

/-- A status as it is written, by its name. -/
def Status.toJson (status : Status) : Json :=
  .string status.name

/-- Data attached to a group: an object all of whose parts are readable. -/
def readMetadata? (node : Json) : Option Metadata :=
  dictionary? Json.normalize? node

/-- A member of an object that is left out where it has no value. -/
def optionalMember {α : Type} (name : String) (toJson : α → Json) (value : Option α) :
    List (String × Json) :=
  (value.map fun held => (name, toJson held)).toList

/-- A group as it is read from a record of its fields. -/
def Group.read? (node : Json) : Option Group := do
  let record ← record?
    ["id", "name", "description", "owner", "parent", "metadata", "status", "created_at",
      "updated_at", "updated_by", "path", "level"] node
  return {
    id := ← record.required "id" text?
    name := ← record.required "name" text?
    description := ← record.defaulted "description" "" text?
    owner := ← record.required "owner" text?
    parent := ← record.omissible "parent" text?
    metadata := ← record.defaulted "metadata" [] readMetadata?
    status := ← record.required "status" Status.read?
    createdAt := ← record.required "created_at" Instant.read?
    updatedAt := ← record.omissible "updated_at" Instant.read?
    updatedBy := ← record.omissible "updated_by" text?
    path := ← record.required "path" text?
    level := ← record.required "level" word32? }

/-- A group as JSON.  What it has no value for is left out. -/
def Group.toJson (group : Group) : Json :=
  .object <|
    [("id", .string group.id), ("name", .string group.name),
      ("description", .string group.description), ("owner", .string group.owner)] ++
    optionalMember "parent" .string group.parent ++
    [("metadata", .object group.metadata), ("status", group.status.toJson),
      ("created_at", group.createdAt.toJson)] ++
    optionalMember "updated_at" Instant.toJson group.updatedAt ++
    optionalMember "updated_by" .string group.updatedBy ++
    [("path", .string group.path), ("level", .ofNat group.level)]

/-- A draft as it is read; it must name the group. -/
def GroupDraft.read? (node : Json) : Option GroupDraft := do
  let record ← record? ["name", "description", "parent", "metadata"] node
  return {
    name := ← record.required "name" text?
    description := ← record.defaulted "description" "" text?
    parent := ← record.omissible "parent" text?
    metadata := ← record.defaulted "metadata" [] readMetadata? }

/-- A draft as it is written. -/
def GroupDraft.toJson (draft : GroupDraft) : Json :=
  .object [
    ("name", .string draft.name),
    ("description", .string draft.description),
    ("parent", .ofText? draft.parent),
    ("metadata", .object draft.metadata)]

/-- An amendment of a group.  When and by whom it is made is not on the wire. -/
def GroupAmendment.read? (node : Json) : Option GroupAmendment := do
  let record ← record? ["id", "name", "description", "metadata"] node
  return {
    id := ← record.required "id" text?
    name := ← record.required "name" text?
    description := ← record.defaulted "description" "" text?
    metadata := ← record.defaulted "metadata" [] readMetadata? }

/-- An amendment as it is written. -/
def GroupAmendment.toJson (amendment : GroupAmendment) : Json :=
  .object [
    ("id", .string amendment.id),
    ("name", .string amendment.name),
    ("description", .string amendment.description),
    ("metadata", .object amendment.metadata)]

/-- A window and its conditions. -/
def PageRequest.read? (node : Json) : Option PageRequest := do
  let record ← record? ["offset", "limit", "name", "status", "owner"] node
  return {
    offset := ← record.defaulted "offset" 0 word64?
    limit := ← record.defaulted "limit" 0 word64?
    name := ← record.omissible "name" text?
    status := ← record.omissible "status" Status.read?
    owner := ← record.omissible "owner" text? }

/-- A window and its conditions as JSON. -/
def PageRequest.toJson (page : PageRequest) : Json :=
  .object [
    ("offset", .ofNat page.offset),
    ("limit", .ofNat page.limit),
    ("name", .ofText? page.name),
    ("status", (page.status.map Status.toJson).getD .null),
    ("owner", .ofText? page.owner)]

/-- A page as it is read, with its items under a name. -/
def Page.read? {α : Type} (name : String) (readItem : Json → Option α) (node : Json) :
    Option (Page α) := do
  let record ← record? ["total", "offset", "limit", name] node
  return {
    total := ← record.required "total" word64?
    offset := ← record.required "offset" word64?
    limit := ← record.required "limit" word64?
    items := ← record.required name (list? readItem) }

/-- A page as it is written, with its items under a name. -/
def Page.toJson {α : Type} (name : String) (item : α → Json) (page : Page α) : Json :=
  .object [
    ("total", .ofNat page.total),
    ("offset", .ofNat page.offset),
    ("limit", .ofNat page.limit),
    (name, .array (page.items.map item))]

end RelationAuth.Groups
