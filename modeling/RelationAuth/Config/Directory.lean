/-!
# Directories

A directory holds texts under paths.  A path is read step by step from the directory: a name leads
to what has this name there, two points lead back to the directory above, and one point or nothing
at all leads nowhere else.
-/

namespace RelationAuth

/-- The files of a directory and of the directories in it: their paths and texts. -/
abbrev Directory := List (String × String)

namespace Directory

/-- The steps of a path without those that lead nowhere else. -/
def stepsOf (path : String) : List String :=
  (path.splitOn "/").filter fun step => step != "" && step != "."

/-- Whether names lead to a directory: they begin the path of a file and end before its name. -/
def hasDirectory (directory : Directory) (place : List String) : Bool :=
  directory.any fun file => place.isPrefixOf (stepsOf file.1).dropLast

/-- The names that lead to the directory where steps end.  Nothing is known of what lies above the
first directory. -/
def follow? (directory : Directory) : List String → List String → Option (List String)
  | place, [] => some place
  | place, step :: rest =>
    if step = ".." then
      if place = [] then none else follow? directory place.dropLast rest
    else if directory.hasDirectory (place ++ [step]) then follow? directory (place ++ [step]) rest
    else none

/-- The text of the file with a name in the directory that some steps lead to. -/
def textAt? (directory : Directory) (steps : List String) (name : String) : Option String := do
  let place ← directory.follow? [] steps
  (directory.find? fun file => stepsOf file.1 == place ++ [name]).map (·.2)

end Directory

end RelationAuth
