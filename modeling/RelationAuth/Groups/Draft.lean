import RelationAuth.Groups.Group

/-!
# Drafts of groups

A draft describes a group to be created, and an amendment the new attributes of a group that exists.
Both must give a name, and neither name nor description may be longer than a bound on their
characters.
-/

namespace RelationAuth.Groups

/-- A group to be created. -/
structure GroupDraft where
  name : String
  description : String := ""
  parent : Option String := none
  metadata : Metadata := []
  deriving Repr, Inhabited

/-- The new attributes of a group. -/
structure GroupAmendment where
  id : String
  name : String
  description : String := ""
  metadata : Metadata := []
  updatedAt : Option Instant := none
  updatedBy : Option String := none
  deriving Repr, Inhabited

/-- The longest name or description, in characters. -/
def maxTextLength : Nat := 1024

/-- The fields of a group whose texts are too short or too long. -/
def faultyFields (name description : String) : List String :=
  (if name.length = 0 ∨ name.length > maxTextLength then ["name"] else []) ++
    (if description.length > maxTextLength then ["description"] else [])

/-- Refuses a name or a description that breaks a rule, with all fields that do. -/
def validateTexts (name description : String) : Except GroupError Unit :=
  match faultyFields name description with
  | [] => .ok ()
  | fields => .error (.validation fields)

/-- Whether the texts of a draft are acceptable. -/
def GroupDraft.validate (draft : GroupDraft) : Except GroupError Unit :=
  validateTexts draft.name draft.description

/-- Whether the texts of an amendment are acceptable. -/
def GroupAmendment.validate (amendment : GroupAmendment) : Except GroupError Unit :=
  validateTexts amendment.name amendment.description

/-- A group with new attributes. -/
def Group.amend (group : Group) (amendment : GroupAmendment) : Group :=
  { group with
    name := amendment.name
    description := amendment.description
    metadata := amendment.metadata
    updatedAt := amendment.updatedAt
    updatedBy := amendment.updatedBy }

end RelationAuth.Groups
