/-!
# Paths

Paths are texts in which slashes separate names. Empty names and single dots stand for nothing,
except for a dot at the beginning.

## Main definitions

* `Path.join`: a path below a directory
* `Path.steps`, `Path.components`: the names of a path
* `Path.parent?`: the directory that holds a path
* `Path.ancestors`: a directory and those around it
-/

namespace MigrationPreview.Path

/-- Whether a path begins at the root of the file system. -/
def isAbsolute (path : String) : Bool := path.toList.head? = some '/'

/-- The path that `path` denotes when it is looked up in `directory`. -/
def join (directory path : String) : String :=
  if isAbsolute path then path
  else if directory = "" then path
  else if directory.toList.getLast? = some '/' then directory ++ path
  else directory ++ "/" ++ path

/-- The names between the slashes of a path, empty ones included. -/
def steps (path : String) : List String :=
  (path.toList.splitOn '/').map String.ofList

/-- The names of a path that stand for something. -/
def components (path : String) : List String :=
  match steps path with
  | "." :: rest => "." :: rest.filter fun s => s ≠ "" && s ≠ "."
  | names => names.filter fun s => s ≠ "" && s ≠ "."

/-- The path of some names below the root or below the current directory. -/
def ofComponents (absolute : Bool) (names : List String) : String :=
  (if absolute then "/" else "") ++ "/".intercalate names

/-- The directory that holds a path, which is empty for a single name. The root and the empty path
have none. -/
def parent? (path : String) : Option String :=
  match components path with
  | [] => none
  | names => some (ofComponents (isAbsolute path) names.dropLast)

/-- The directories from some names, given in reverse, up to the root. -/
def ancestorsOf : List String → List String
  | [] => [ofComponents true []]
  | name :: names => ofComponents true (name :: names).reverse :: ancestorsOf names

/-- A directory and those around it, up to the root. -/
def ancestors (path : String) : List String := ancestorsOf (components path).reverse

end MigrationPreview.Path
