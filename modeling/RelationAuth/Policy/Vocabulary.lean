/-!
# The words of the built-in schema

The relations, permissions, entity types and kinds that the services and the built-in permission
schema speak of.
-/

namespace RelationAuth.Policy

/-- The relation of those who administer an entity. -/
def administratorRelation : String := "administrator"

/-- The relation of those who own an entity. -/
def ownerRelation : String := "owner"

/-- The relation of those who may edit an entity. -/
def editorRelation : String := "editor"

/-- The relation of those who may see an entity. -/
def viewerRelation : String := "viewer"

/-- The relation of the members of an entity. -/
def memberRelation : String := "member"

/-- The relation that binds a thing or a channel to its group. -/
def groupRelation : String := "group"

/-- The relation that binds a group to the group above it. -/
def parentGroupRelation : String := "parent_group"

/-- The permission to administer. -/
def adminPermission : String := "admin"

/-- The permission to delete. -/
def deletePermission : String := "delete"

/-- The permission to edit. -/
def editPermission : String := "edit"

/-- The permission to see. -/
def viewPermission : String := "view"

/-- The permission to share. -/
def sharePermission : String := "share"

/-- The permission that comes with any role on a group. -/
def membershipPermission : String := "membership"

/-- The type of users. -/
def userType : String := "user"

/-- The type of groups. -/
def groupType : String := "group"

/-- The type of things. -/
def thingType : String := "thing"

/-- The type of channels. -/
def channelType : String := "channel"

/-- The kind of subject that is named by a login token. -/
def tokenKind : String := "token"

/-- The kind of members that are users. -/
def usersKind : String := "users"

/-- The kind of members that are groups. -/
def groupsKind : String := "groups"

/-- The kind of members that are things. -/
def thingsKind : String := "things"

/-- The kind of members that are channels. -/
def channelsKind : String := "channels"

/-- The names that a subject set may carry.  Removing an entity sweeps the set of each of them. -/
def subjectSetRelations : List String :=
  [administratorRelation, ownerRelation, editorRelation, viewerRelation, memberRelation,
    groupRelation, parentGroupRelation, adminPermission, deletePermission, editPermission,
    viewPermission, sharePermission, membershipPermission]

end RelationAuth.Policy
