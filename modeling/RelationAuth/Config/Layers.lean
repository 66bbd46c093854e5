import RelationAuth.Config.Directory
import RelationAuth.Config.EnvFile
import RelationAuth.Config.Path
import RelationAuth.Config.Toml

/-!
# Layers of a configuration

A configuration is merged from two layers.  The first is a file, which may be missing; the second
are the variables of the environment whose names begin with a mark.  What the second layer sets
takes the place of what the first has set.
-/

namespace RelationAuth

/-- The formats of configuration files. -/
inductive ConfigFormat where
  | json
  | toml
  deriving DecidableEq, Repr, Inhabited

namespace ConfigFormat

/-- All formats, in the order in which files are looked for. -/
def all : List ConfigFormat :=
  [json, toml]

/-- The ending of the names of files of a format. -/
def extension : ConfigFormat → String
  | json => "json"
  | toml => "toml"

/-- The format of a file, told from the ending of its name.  A name that has its only point at the
start has no ending. -/
def ofFileName? (name : String) : Option ConfigFormat :=
  match (name.splitOn ".").reverse with
  | ending :: before :: rest =>
    if before = "" ∧ rest = [] then none else all.find? fun format => format.extension == ending
  | _ => none

/-- The tree of a text, which has a table at its root. -/
def read? (text : String) : ConfigFormat → Option ConfigTree
  | json =>
    match (Json.parse? text).bind Json.normalize? with
    | some (.object members) => some (ConfigTree.ofJson (.object members))
    | _ => none
  | toml => Toml.parse? text

end ConfigFormat

namespace ConfigLayer

/-- The file that a path names: the file of this very name, or else the first one whose name is the
last name of the path with the ending of a format.  A file of this very name in no known format
counts as missing, and so does everything outside of the directory.  A path that ends with a slash
or a point is not the name of a file itself. -/
def findFile? (directory : Directory) (path : String) : Option (ConfigFormat × String) := do
  guard (path.toList.head? ≠ some '/')
  let steps := Directory.stepsOf path
  let name ← steps.getLast?
  guard (name ≠ "..")
  let isFileName := (path.splitOn "/").getLast? == some name
  match (directory.textAt? steps.dropLast name).filter fun _ => isFileName with
  | some text => (ConfigFormat.ofFileName? name).map fun format => (format, text)
  | none =>
    ConfigFormat.all.findSome? fun format =>
      (directory.textAt? steps.dropLast (name ++ "." ++ format.extension)).map (format, ·)

/-- A text without a byte order mark at its start. -/
def withoutByteOrderMark (text : String) : String :=
  match text.toList with
  | '\uFEFF' :: rest => String.ofList rest
  | _ => text

/-- The settings of a file, or none where the file is missing. -/
def ofFile? (directory : Directory) (path : String) : Option (List (String × ConfigTree)) :=
  match findFile? directory path with
  | some (format, text) =>
    (format.read? (withoutByteOrderMark text)).map ConfigTree.entriesOf
  | none => some []

/-- What the name of a variable begins with when it is a setting, in lower case. -/
def environmentMark : String := "auth__"

/-- The path of the setting that a variable makes.  Names count without regard to case, and two
underscores stand between the names of a path. -/
def settingOfVariable? (name : String) : Option String :=
  let lowered := (Text.toLowerCase name).toList
  if environmentMark.toList.isPrefixOf lowered then
    let path := String.ofList (lowered.drop environmentMark.length)
    some (".".intercalate (path.splitOn "__"))
  else none

/-- The settings of an environment.  Of two variables for one setting the later one counts. -/
def ofEnvironment (environment : Environment) : List (String × ConfigTree) :=
  Json.sortMembers <| environment.filterMap fun (name, value) =>
    (settingOfVariable? name).map (·, .text value)

/-- Why layers make no configuration. -/
inductive Fault where
  /-- The file is not well-formed. -/
  | malformedFile
  /-- A variable cannot have its value, or a setting has a position that no list has. -/
  | impossibleSetting
  deriving DecidableEq, Repr

/-- The configuration of a directory and an environment.  The variables of the file `.env` come to
the environment first and leave the variables alone that are set already. -/
def load (directory : Directory) (environment : Environment) (path : Option String) :
    Except Fault ConfigTree :=
  match EnvFile.load? ((directory.textAt? [] ".env").getD "") environment with
  | none => .error .impossibleSetting
  | some settings =>
    match (path.map (ofFile? directory)).getD (some []) with
    | none => .error .malformedFile
    | some fileSettings =>
      match (fileSettings ++ ofEnvironment settings).foldlM ConfigTree.setSetting? (.table []) with
      | none => .error .impossibleSetting
      | some tree => .ok tree

end ConfigLayer

end RelationAuth
