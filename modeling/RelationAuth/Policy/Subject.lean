import RelationAuth.Text.Order

/-!
# Subjects

The subject of a tuple is a principal, named by an id, or a set: everyone who holds a relation on an
object.  Both are texts on the wire; a text of the form `namespace:object#relation` names a set, and
every other text is an id.
-/

namespace RelationAuth.Policy

/-- Every holder of a relation on an object of a namespace. -/
structure SubjectSet where
  namespaceName : String
  object : String
  relation : String
  deriving DecidableEq, Repr, Inhabited

/-- The subject of a tuple. -/
inductive Subject where
  /-- A principal. -/
  | id (name : String)
  | set (holders : SubjectSet)
  deriving DecidableEq, Repr, Inhabited

/-- A set as a text. -/
def SubjectSet.display (holders : SubjectSet) : String :=
  holders.namespaceName ++ ":" ++ holders.object ++ "#" ++ holders.relation

/-- The part of a text before the first occurrence of a mark and the part after it. -/
def splitAtMark (mark : Char) (text : List Char) : Option (List Char × List Char) :=
  match text.dropWhile (· ≠ mark) with
  | [] => none
  | _ :: rest => some (text.takeWhile (· ≠ mark), rest)

namespace Subject

/-- The set that a sequence of characters names.  The namespace runs to the first colon, the object
from there to the first number sign, and the relation to the end; none of them is empty, and the
relation stays on one line. -/
def setOfChars? (text : List Char) : Option SubjectSet := do
  let (namespaceName, afterColon) ← splitAtMark ':' text
  let (object, relation) ← splitAtMark '#' afterColon
  guard (namespaceName ≠ [] ∧ object ≠ [] ∧ relation ≠ [] ∧ '\n' ∉ relation)
  return {
    namespaceName := String.ofList namespaceName
    object := String.ofList object
    relation := String.ofList relation }

/-- The subject that a text names: a set if the text has the form of one, and else a principal. -/
def parse (text : String) : Subject :=
  match setOfChars? text.toList with
  | some holders => set holders
  | none => id text

/-- A subject as a text. -/
def display : Subject → String
  | id name => name
  | set holders => holders.display

/-- The bare id of a subject: of a principal itself, and of a set its object. -/
def bareId : Subject → String
  | id name => name
  | set holders => holders.object

/-- Whether a subject is a set. -/
def isSet : Subject → Bool
  | id _ => false
  | set _ => true

/-- The texts by which subjects are ordered: ids before sets, and within each by their parts. -/
def sortKey : Subject → List String
  | id name => ["id", name]
  | set holders => ["set", holders.namespaceName, holders.object, holders.relation]

/-- Whether a subject does not come after another. -/
def precedes (left right : Subject) : Bool :=
  Text.compareTexts left.sortKey right.sortKey != .gt

/-- Subjects in their order. -/
def sort (subjects : List Subject) : List Subject :=
  subjects.mergeSort precedes

end Subject

end RelationAuth.Policy
