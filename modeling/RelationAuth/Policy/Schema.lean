import RelationAuth.Policy.Error
import RelationAuth.Policy.Vocabulary

/-!
# Permission schemas

A schema declares, for each type of object, the relations that grant its permissions and the
relations through which its objects inherit permissions from a parent.
-/

namespace RelationAuth.Policy

/-- A relation by which the holder of a permission on the parent holds it on the child too. -/
structure ParentLink where
  relation : String
  parentType : String
  deriving DecidableEq, Repr, Inhabited

/-- The permissions of one type of object. -/
structure TypeDefinition where
  name : String
  /-- The relations that grant each permission. -/
  permissions : List (String × List String)
  parents : List ParentLink
  deriving DecidableEq, Repr, Inhabited

/-- The permissions of every declared type. -/
structure PermissionSchema where
  types : List (String × TypeDefinition)
  deriving DecidableEq, Repr, Inhabited

namespace PermissionSchema

/-- The schema that declares no type. -/
def empty : PermissionSchema :=
  { types := [] }

/-- The permissions of groups: each role grants what the roles below it grant, and all of them pass
from a group to the groups under it. -/
def groupDefinition : TypeDefinition :=
  { name := groupType
    permissions := [
      (adminPermission, [administratorRelation]),
      (deletePermission, [administratorRelation]),
      (editPermission, [administratorRelation, editorRelation]),
      (membershipPermission,
        [administratorRelation, editorRelation, viewerRelation, memberRelation]),
      (sharePermission, [administratorRelation]),
      (viewPermission, [administratorRelation, editorRelation, viewerRelation, memberRelation])]
    parents := [{ relation := parentGroupRelation, parentType := groupType }] }

/-- The permissions of things and channels, which pass to them from their group. -/
def entityDefinition (typeName : String) : TypeDefinition :=
  { name := typeName
    permissions := [
      (adminPermission, [ownerRelation, administratorRelation]),
      (deletePermission, [ownerRelation, administratorRelation]),
      (editPermission, [ownerRelation, administratorRelation, editorRelation]),
      (sharePermission, [ownerRelation, administratorRelation]),
      (viewPermission, [ownerRelation, administratorRelation, editorRelation, viewerRelation])]
    parents := [{ relation := groupRelation, parentType := groupType }] }

/-- The built-in schema: nested groups, and things and channels that belong to groups. -/
def groupsSchema : PermissionSchema :=
  { types := [
      (channelType, entityDefinition channelType),
      (groupType, groupDefinition),
      (thingType, entityDefinition thingType)] }

/-- The definition of a type of objects. -/
def definition? (schema : PermissionSchema) (objectType : String) : Option TypeDefinition :=
  schema.types.lookup objectType

/-- The relations that a type of objects lists under a permission. -/
def listedRelations? (schema : PermissionSchema) (objectType name : String) :
    Option (List String) :=
  (schema.definition? objectType).bind fun definition => definition.permissions.lookup name

/-- The relations whose presence grants a name on an object of a type.  The name itself comes first,
so that plain relations are looked up directly. -/
def grantingRelations (schema : PermissionSchema) (objectType name : String) : List String :=
  name :: ((schema.listedRelations? objectType name).getD []).filter (· ≠ name)

/-- Whether a name is a permission of a type, and not a plain relation.  Only permissions are
inherited. -/
def isPermission (schema : PermissionSchema) (objectType name : String) : Bool :=
  (schema.listedRelations? objectType name).isSome

/-- The relations through which objects of a type inherit. -/
def parentLinks (schema : PermissionSchema) (objectType : String) : List ParentLink :=
  ((schema.definition? objectType).map (·.parents)).getD []

/-- The first fault of a definition: a permission that no relation grants, or a parent of a type
that is not defined. -/
def definitionFault? (schema : PermissionSchema) (definition : TypeDefinition) :
    Option SchemaFault :=
  let ungranted := definition.permissions.findSome? fun (permission, relations) =>
    if relations.all (· = "") then some (SchemaFault.ungrantedPermission permission definition.name)
    else none
  ungranted.or <| definition.parents.findSome? fun link =>
    if (schema.definition? link.parentType).isNone then
      some (.undeclaredParent definition.name link.parentType)
    else none

/-- Whether every permission is granted by some relation and every parent is of a declared type. -/
def validate (schema : PermissionSchema) : Except PolicyError Unit :=
  match schema.types.findSome? fun entry => schema.definitionFault? entry.2 with
  | some fault => .error (.invalidSchema fault)
  | none => .ok ()

end PermissionSchema

end RelationAuth.Policy
