import RelationAuth.Config.TomlValue

/-!
# TOML documents

A document is a sequence of settings and of headers that open tables.  A table is opened by one
header at most, and what a dotted name or a braced table has defined cannot be extended from
elsewhere.  Nesting and dotted names go no deeper than `Toml.maxDepth`.
-/

namespace RelationAuth.Toml

/-- How a table came about. -/
inductive Origin where
  | header
  /-- On the way to a table with a header. -/
  | passage
  | dotted
  deriving DecidableEq, Repr

/-- What stands under a name while a document is read. -/
inductive Node where
  /-- A value that nothing can be added to. -/
  | closed (value : ConfigTree)
  | table (origin : Origin) (entries : List (String × Node))
  /-- Tables that headers in double brackets have opened one after the other. -/
  | tables (items : List (List (String × Node)))

/-- The entries of a table. -/
abbrev Entries := List (String × Node)

mutual

/-- What stands under a name as a configuration. -/
def Node.tree : Node → ConfigTree
  | .closed value => value
  | .table _ entries => .table (entryTrees entries)
  | .tables items => .list (itemTrees items)

/-- The trees of the entries of a table. -/
def entryTrees : List (String × Node) → List (String × ConfigTree)
  | [] => []
  | (name, node) :: rest => (name, node.tree) :: entryTrees rest

/-- The trees of the tables of a list of tables. -/
def itemTrees : List (List (String × Node)) → List ConfigTree
  | [] => []
  | entries :: rest => .table (entryTrees entries) :: itemTrees rest

end

/-- The entries with a node put under a name, in its old place if it has one. -/
def put (name : String) (node : Node) : Entries → Entries
  | [] => [(name, node)]
  | (other, held) :: rest =>
    if other = name then (name, node) :: rest else (other, held) :: put name node rest

/-- A change of a table that can be refused. -/
abbrev Edit := Origin → Entries → Option (Origin × Entries)

/-- A table with the table at the end of a path changed.  Tables on the way are made where there are
none; of tables that headers opened one after the other, the last is meant.  A dotted name does not
lead through a table that has a header. -/
def changeTable (byDots : Bool) (edit : Edit) : List String → Edit
  | [], origin, entries => edit origin entries
  | name :: path, origin, entries => do
    let node ←
      match entries.lookup name with
      | none => do
        let made := if byDots then Origin.dotted else .passage
        let (inner, below) ← changeTable byDots edit path made []
        some (Node.table inner below)
      | some (.closed _) => none
      | some (.tables items) => do
        let (_, below) ← changeTable byDots edit path .header (items.getLast?.getD [])
        some (Node.tables (items.dropLast ++ [below]))
      | some (.table inner below) => do
        guard (!(byDots && inner == .header))
        let (inner, below) ← changeTable byDots edit path inner below
        some (Node.table inner below)
    return (origin, put name node entries)

/-- Set a name that is not taken yet to a value. -/
def setName (name : String) (value : ConfigTree) : Edit :=
  fun origin entries =>
    if (entries.lookup name).isSome then none else some (origin, put name (.closed value) entries)

/-- Set a name at the end of dotted names.  The table that they lead to must be one that dotted
names made. -/
def setDotted (path : List String) (value : ConfigTree) : Edit :=
  match path.getLast?, path.dropLast with
  | none, _ => fun _ _ => none
  | some name, [] => setName name value
  | some name, prefixes =>
    changeTable true
      (fun origin entries =>
        if origin = .dotted then setName name value origin entries else none)
      prefixes

/-- Open a table by its header.  A table that was only passed on the way to another one may be
opened still. -/
def openTable (name : String) : Edit :=
  fun origin entries =>
    match entries.lookup name with
    | none => some (origin, put name (.table .header []) entries)
    | some (.table .passage below) => some (origin, put name (.table .header below) entries)
    | some _ => none

/-- Open one more table of a header in double brackets. -/
def openNext (name : String) : Edit :=
  fun origin entries =>
    match entries.lookup name with
    | none => some (origin, put name (.tables [[]]) entries)
    | some (.tables items) => some (origin, put name (.tables (items ++ [[]])) entries)
    | some _ => none

/-- Whether a character can stand in a name without quotes. -/
def isBareChar (symbol : Char) : Bool :=
  symbol.isAlphanum || symbol == '_' || symbol == '-'

/-- A name at the start of a text, quoted or bare. -/
def scanName? (input : List Char) : Option (String × List Char) :=
  match input with
  | '"' :: rest => (scanBasic rest).map fun scan => (String.ofList scan.1, scan.2)
  | '\'' :: rest => (scanLiteral rest).map fun scan => (String.ofList scan.1, scan.2)
  | _ =>
    match input.takeWhile isBareChar with
    | [] => none
    | name => some (String.ofList name, input.dropWhile isBareChar)

/-- The deepest nesting of lists and braced tables, and the largest number of names with points
between them. -/
def maxDepth : Nat := 79

/-- Names with points between them, and the input after them and the blanks that follow.  The first
argument bounds their number. -/
def scanNames? : Nat → List Char → Option (List String × List Char)
  | 0, _ => none
  | bound + 1, input => do
    let (name, after) ← scanName? input
    match skipBlanks after with
    | '.' :: rest =>
      let (names, after) ← scanNames? bound (skipBlanks rest)
      return (name :: names, after)
    | after => return ([name], after)

/-- An input without blanks, line breaks and comments at its start.  The first argument bounds the
number of lines. -/
def skipLines? : Nat → List Char → Option (List Char)
  | 0, _ => none
  | bound + 1, input => do
    let after ← skipComment? (skipBlanks input)
    match lineBreak? after with
    | some rest => skipLines? bound rest
    | none => return after

mutual

/-- A value, and the input after it.  The first argument bounds the number of steps and the second
the depth of nesting. -/
def scanValue : Nat → Nat → List Char → Option (ConfigTree × List Char)
  | 0, _, _ => none
  | bound + 1, depth, input =>
    match input with
    | '[' :: rest =>
      match depth with
      | 0 => none
      | below + 1 => (scanItems bound below rest).map fun scan => (.list scan.1, scan.2)
    | '\x7b' :: rest =>
      match depth, skipBlanks rest with
      | 0, _ => none
      | _ + 1, '\x7d' :: after => some (.table [], after)
      | below + 1, start =>
        (scanEntries bound below [] start).map fun scan => (.table (entryTrees scan.1), scan.2)
    | '"' :: _ | '\'' :: _ => (scanString? input).map fun scan => (.text scan.1, scan.2)
    | _ => do
      let (token, after) := scanToken input
      return (← readToken? token, after)

/-- The items of a list after its opening bracket, and the input after its closing one. -/
def scanItems : Nat → Nat → List Char → Option (List ConfigTree × List Char)
  | 0, _, _ => none
  | bound + 1, depth, input => do
    match ← skipLines? input.length.succ input with
    | ']' :: after => return ([], after)
    | start =>
      let (item, afterItem) ← scanValue bound depth start
      match ← skipLines? afterItem.length.succ afterItem with
      | ',' :: rest =>
        let (items, after) ← scanItems bound depth rest
        return (item :: items, after)
      | ']' :: after => return ([item], after)
      | _ => none

/-- The settings of a braced table from the first of those that are left, added to the entries
before, and the input after its closing brace. -/
def scanEntries : Nat → Nat → Entries → List Char → Option (Entries × List Char)
  | 0, _, _, _ => none
  | bound + 1, depth, before, input => do
    let (path, value, afterValue) ← scanSetting bound depth input
    let (_, entries) ← setDotted path value .header before
    match skipBlanks afterValue with
    | ',' :: rest => scanEntries bound depth entries (skipBlanks rest)
    | '\x7d' :: after => return (entries, after)
    | _ => none

/-- A setting: names, an equals sign and a value, and the input after them. -/
def scanSetting : Nat → Nat → List Char → Option (List String × ConfigTree × List Char)
  | 0, _, _ => none
  | bound + 1, depth, input => do
    let (path, afterPath) ← scanNames? maxDepth input
    match afterPath with
    | '=' :: rest =>
      let (value, after) ← scanValue bound depth (skipBlanks rest)
      return (path, value, after)
    | _ => none

end

/-- A document as far as it has been read: its entries, and the path of the open table. -/
structure Draft where
  entries : Entries := []
  opened : List String := []

/-- The names of a header and the input after its closing brackets. -/
def scanHeader? (brackets : Nat) (input : List Char) : Option (List String × List Char) := do
  let (path, after) ← scanNames? maxDepth (skipBlanks input)
  let closing := List.replicate brackets ']'
  if closing.isPrefixOf after then some (path, after.drop brackets) else none

/-- The draft with a table opened by its header, or with the next table of a list. -/
def Draft.openHeader? (draft : Draft) (next : Bool) (path : List String) : Option Draft := do
  let name ← path.getLast?
  let edit := if next then openNext name else openTable name
  let (_, entries) ← changeTable false edit path.dropLast .header draft.entries
  return { entries, opened := path }

/-- The draft with a value set in the table that is open. -/
def Draft.set? (draft : Draft) (path : List String) (value : ConfigTree) : Option Draft := do
  let (_, entries) ←
    changeTable false (setDotted path value) draft.opened .header draft.entries
  return { draft with entries }

/-- A document with one line read, and the input after what the line says. -/
def Draft.readLine? (draft : Draft) (input : List Char) : Option (Draft × List Char) :=
  match input with
  | '[' :: '[' :: rest => do
    let (path, after) ← scanHeader? 2 rest
    return (← draft.openHeader? true path, after)
  | '[' :: rest => do
    let (path, after) ← scanHeader? 1 rest
    return (← draft.openHeader? false path, after)
  | '#' :: _ | '\n' :: _ | '\r' :: _ | [] => some (draft, input)
  | _ => do
    let (path, value, after) ← scanSetting (2 * input.length + 2) maxDepth input
    return (← draft.set? path value, after)

/-- A document with all lines read.  The first argument bounds their number. -/
def readLines? : Nat → Draft → List Char → Option Draft
  | 0, _, _ => none
  | bound + 1, draft, input => do
    let (next, afterLine) ← draft.readLine? (skipBlanks input)
    match ← skipComment? (skipBlanks afterLine) with
    | [] => return next
    | after => readLines? bound next (← lineBreak? after)

/-- The tables of a document as a configuration.  A byte order mark may stand before them. -/
def parse? (text : String) : Option ConfigTree := do
  let input :=
    match text.toList with
    | '\uFEFF' :: rest => rest
    | symbols => symbols
  let draft ← readLines? input.length.succ {} input
  return .table (entryTrees draft.entries)

end RelationAuth.Toml
