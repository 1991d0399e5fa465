/-!
# Paths

A path is text; its parts stand between slashes. Empty parts and points say nothing.
-/

namespace BayMap.Files.Path

/-- The parts of a text between a separating character, empty parts included. -/
def split (separator : Char) : List Char → List (List Char)
  | [] => [[]]
  | c :: rest =>
    if c = separator then [] :: split separator rest
    else
      match split separator rest with
      | [] => [[c]]
      | part :: parts => (c :: part) :: parts

/-- The parts of a path between its slashes. -/
def parts (path : String) : List String := (split '/' path.toList).map .ofList

/-- A path that starts at the root. -/
def isAbsolute (path : String) : Bool := path.toList.head? == some '/'

/-- The path of a name in a directory. A name that is a path from the root stands for itself. -/
def join (directory name : String) : String :=
  if isAbsolute name then name
  else if directory.toList = [] ∨ directory.toList.getLast? = some '/' then directory ++ name
  else directory ++ "/" ++ name

/-- The last part of a path, unless it leads upwards or there is none. -/
def fileName (path : String) : Option String :=
  ((parts path).filter fun part => part ≠ "" ∧ part ≠ ".").getLast?.filter (· ≠ "..")

end BayMap.Files.Path
