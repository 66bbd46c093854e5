import RelationAuth.Config.Tree

/-!
# Paths into configuration trees

A setting is named by a path: a name, and then names after points and positions in brackets.
Setting a value makes tables and lists on the way where there are none.  A table that is set is
merged into the table that stands there, and names are stored in lower case.  A position before the
start of a list, or beyond the longest list, cannot be set.
-/

namespace RelationAuth

/-- One step from a node to a node below it. -/
inductive PathStep where
  | name (key : String)
  | position (index : Int)
  deriving DecidableEq, Repr, Inhabited

namespace ConfigPath

/-- Whether a symbol may stand in a name of a path. -/
def isNameChar (symbol : Char) : Bool :=
  symbol.isAlphanum || symbol == ' ' || symbol == '_' || symbol == '-'

/-- A name at the start of a text, in lower case, and the text after it. -/
def scanName? (input : List Char) : Option (String × List Char) :=
  match input.takeWhile isNameChar with
  | [] => none
  | name => some (Text.toLowerCase (String.ofList name), input.dropWhile isNameChar)

/-- Whether a character can stand around a position. -/
def isSpace (symbol : Char) : Bool :=
  symbol == ' ' || symbol == '\t'

/-- A position at the start of a text with the spaces around it, and the text after it.  Positions
are signed numbers of 64 bits. -/
def scanPosition? (input : List Char) : Option (Int × List Char) :=
  let (negative, rest) :=
    match input.dropWhile isSpace with
    | '-' :: rest => (true, rest)
    | rest => (false, rest)
  match rest.takeWhile Char.isDigit with
  | [] => none
  | digits =>
    let magnitude : Int := Text.natOfDigits digits
    let index := if negative then -magnitude else magnitude
    if isSigned64 index then some (index, (rest.dropWhile Char.isDigit).dropWhile isSpace)
    else none

/-- The steps after the first name of a path.  The first argument bounds their number. -/
def scanSteps? : Nat → List Char → Option (List PathStep)
  | _, [] => some []
  | 0, _ => none
  | bound + 1, '.' :: rest => do
    let (name, after) ← scanName? rest
    return .name name :: (← scanSteps? bound after)
  | bound + 1, '[' :: rest => do
    let (index, after) ← scanPosition? rest
    match after with
    | ']' :: after => return .position index :: (← scanSteps? bound after)
    | _ => none
  | _ + 1, _ => none

/-- The steps that a path spells out: a name, and then further names and positions. -/
def parse? (text : String) : Option (List PathStep) := do
  let (name, after) ← scanName? text.toList
  return .name name :: (← scanSteps? after.length after)

end ConfigPath

namespace ConfigTree

/-- The entries of a table; anything else has none. -/
def entriesOf : ConfigTree → List (String × ConfigTree)
  | table entries => entries
  | _ => []

/-- The items of a list; anything else has none. -/
def itemsOf : ConfigTree → List ConfigTree
  | list items => items
  | _ => []

/-- The entries of a table with one entry put into it; an entry of the same name is replaced. -/
def putEntry (key : String) (value : ConfigTree) :
    List (String × ConfigTree) → List (String × ConfigTree)
  | [] => [(key, value)]
  | (other, kept) :: rest =>
    if other = key then (other, value) :: rest else (other, kept) :: putEntry key value rest

/-- The length that no list of a configuration reaches. -/
def lengthBound : Nat := word32Bound

/-- The place in a list that a position names, which may lie beyond its end.  Negative positions
count from the end, and there is no place before the start. -/
def placeOf? (length : Nat) (index : Int) : Option Nat :=
  if 0 ≤ index then
    if index < (lengthBound : Int) then some index.toNat else none
  else if index.natAbs ≤ length then some (length - index.natAbs)
  else none

/-- A tree with the node that some steps lead to changed.  Tables and lists on the way are made
where there are none, and a list that is too short is filled up with null. -/
def changeAt? (edit : ConfigTree → ConfigTree) : List PathStep → ConfigTree → Option ConfigTree
  | [], tree => some (edit tree)
  | .name key :: steps, tree => do
    let entries := tree.entriesOf
    let node ← changeAt? edit steps ((entries.lookup key).getD null)
    return table (putEntry key node entries)
  | .position index :: steps, tree => do
    let items := tree.itemsOf
    let place ← placeOf? items.length index
    let filled := items ++ List.replicate (place + 1 - items.length) null
    let node ← changeAt? edit steps (filled.getD place null)
    return list (filled.set place node)

mutual

/-- What stands under a name after a value is set there: a table is merged into the table before
it, and every other value takes the place. -/
def merge (value : ConfigTree) (before : Option ConfigTree) : ConfigTree :=
  match value with
  | table entries => mergeEntries entries (before.getD (table []))
  | other => other

/-- A tree with entries merged into it one by one, under their names in lower case. -/
def mergeEntries (entries : List (String × ConfigTree)) (tree : ConfigTree) : ConfigTree :=
  match entries with
  | [] => tree
  | (key, value) :: rest =>
    let name := Text.toLowerCase key
    let before := tree.entriesOf
    let merged := merge value (before.lookup name)
    mergeEntries rest (table (putEntry name merged before))

end

/-- A tree with a value set at a path.  A last step by name merges the value into what is there, and
one by position replaces it. -/
def setPath? (steps : List PathStep) (value : ConfigTree) (tree : ConfigTree) :
    Option ConfigTree :=
  match steps.getLast? with
  | some (.name key) => changeAt? (mergeEntries [(key, value)]) steps.dropLast tree
  | _ => changeAt? (fun _ => value) steps tree

/-- A tree with a setting of a layer.  A name that is no path is a name as it stands.  There is no
tree where the path has a position that no list has. -/
def setSetting? (tree : ConfigTree) (setting : String × ConfigTree) : Option ConfigTree :=
  match ConfigPath.parse? setting.1 with
  | some steps => setPath? steps setting.2 tree
  | none => some (mergeEntries [setting] tree)

end ConfigTree

end RelationAuth
