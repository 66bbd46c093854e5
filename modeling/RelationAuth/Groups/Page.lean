import RelationAuth.Groups.Group
import RelationAuth.Text.LowerCase

/-!
# Windows on listings

A listing is shown through a window: an offset and a limit.  The total counts what the whole listing
holds, whatever the window.
-/

namespace RelationAuth.Groups

/-- A window on a listing, and what a group must satisfy to be listed. -/
structure PageRequest where
  offset : Nat := 0
  limit : Nat := 0
  /-- A text that occurs in the name, whatever its case. -/
  name : Option String := none
  status : Option Status := none
  owner : Option String := none
  deriving DecidableEq, Repr, Inhabited

/-- The limit used when none is asked for. -/
def defaultPageLimit : Nat := 10

namespace PageRequest

/-- The limit of a window; zero asks for the default. -/
def limitOrDefault (page : PageRequest) : Nat :=
  if page.limit = 0 then defaultPageLimit else page.limit

/-- Whether a window's conditions admit a group: its name contains a text, whatever its case, and
its status and its owner are given ones, as far as the conditions say. -/
def admits (page : PageRequest) (group : Group) : Bool :=
  (page.name.all fun name => Text.containsIgnoringCase group.name name) &&
    (page.status.all (· = group.status)) && (page.owner.all (· = group.owner))

/-- What a window shows of a list. -/
def window {α : Type} (page : PageRequest) (items : List α) : List α :=
  (items.drop page.offset).take page.limitOrDefault

end PageRequest

/-- The part of a listing that a window shows. -/
structure Page (α : Type) where
  total : Nat
  offset : Nat
  limit : Nat
  items : List α
  deriving Repr, Inhabited

/-- The page that a window shows of a listing. -/
def PageRequest.page {α : Type} (page : PageRequest) (listing : List α) : Page α :=
  { total := listing.length
    offset := page.offset
    limit := page.limitOrDefault
    items := page.window listing }

end RelationAuth.Groups
