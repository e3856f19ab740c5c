import MigrationPreview.Files.Path
import MigrationPreview.Files.System

/-!
# File trees

A file system as a value: the directories below a root, the files in them and their bytes, and the
directory in which relative paths begin.

## Main definitions

* `FileNode`: files and directories
* `FileNode.walk`: where some steps lead
* `FileTree`: a root and a working directory
* `FileTree.find`: what a path names
* `FileTree.write`, `FileTree.createDirectories`: changes to a tree
* `FileTree.system`: the file system whose state is a tree
-/

namespace MigrationPreview

/-- A file or a directory. -/
inductive FileNode where
  | file (bytes : ByteArray)
  | directory (entries : List (String × FileNode))
  deriving Inhabited

namespace FileNode

/-! ### Walks -/

/-- Why there is nothing of a name that no directory holds: a name has at most 255 bytes. -/
def absence (name : String) : FileFault :=
  if 255 < name.utf8ByteSize then .nameTooLong else .notFound

/-- The node that some steps lead to from the first node; the list holds the directories around it,
the nearest first. Around the root there is only the root. -/
def walk : FileNode → List FileNode → List String → Except FileFault FileNode
  | here, _, [] => .ok here
  | file _, _, _ :: _ => .error .notADirectory
  | directory entries, above, step :: rest =>
    if step = "" ∨ step = "." then walk (directory entries) above rest
    else if step = ".." then walk (above.headD (directory entries)) above.tail rest
    else
      match entries.lookup step with
      | some child => walk child (directory entries :: above) rest
      | none => .error (absence step)

/-- The names from the root to where some steps lead, with dots resolved; `kept` holds the names so
far, in reverse. -/
def canonical : List String → List String → List String
  | kept, [] => kept.reverse
  | kept, step :: rest =>
    if step = "" ∨ step = "." then canonical kept rest
    else if step = ".." then canonical kept.tail rest
    else canonical (step :: kept) rest

/-! ### Changing -/

/-- The entries of a directory in which `name` stands for `node`. -/
def setEntry (name : String) (node : FileNode) :
    List (String × FileNode) → List (String × FileNode)
  | [] => [(name, node)]
  | (n, old) :: rest => if n = name then (n, node) :: rest else (n, old) :: setEntry name node rest

/-- The tree in which the names lead to `node`. Directories on the way that do not exist are
made. -/
def put (node : FileNode) : List String → FileNode → FileNode
  | [], _ => node
  | name :: names, directory entries =>
    directory (setEntry name (put node names ((entries.lookup name).getD (directory []))) entries)
  | _ :: _, file bytes => file bytes

/-- Puts a file with the given text where the last of some steps is a name in an existing directory.
Steps that end with an empty one name a directory, whether there is one or not. -/
def write (root : FileNode) (steps : List String) (text : String) : Except FileFault FileNode := do
  let names := (steps.reverse.dropWhile (· = "")).reverse
  match ← walk root [] names.dropLast with
  | file _ => throw .notADirectory
  | directory entries =>
    let name := names.getLast?.getD ""
    if names.length < steps.length ∨ name ∈ [".", ".."] then throw .isADirectory
    match entries.lookup name with
    | some (directory _) => throw .isADirectory
    | some (file _) => return put (file text.toUTF8) (canonical [] names) root
    | none =>
      if absence name = .nameTooLong then throw .nameTooLong
      return put (file text.toUTF8) (canonical [] names) root

/-- Makes the directories that some more steps behind `before` lead through, in their order; `made` tells
whether one has been made on the way. A failure leaves those that were made before it. -/
def createAll (root : FileNode) (made : Bool) (before : List String) :
    List String → Except FileFault Unit × FileNode
  | [] => (.ok (), root)
  | step :: rest =>
    let here := before ++ [step]
    match walk root [] here with
    | .ok (directory _) => createAll root made here rest
    -- a file in the way is met by a lookup, unless a directory was to be made in its place
    | .ok (file _) => (.error (if made ∨ rest.isEmpty then .alreadyExists else .notADirectory), root)
    | .error .notFound => createAll (put (directory []) (canonical [] here) root) true here rest
    | .error fault => (.error fault, root)

end FileNode

/-- The nodes below a root, and the names from the root to the working directory, in which relative
paths begin. -/
structure FileTree where
  root : FileNode
  workingDirectory : List String := []
  deriving Inhabited

namespace FileTree

variable (tree : FileTree)

/-! ### Looking up -/

/-- The fault of a path that names nothing in any tree: what the operating system takes is neither
empty nor of 4096 bytes or more. -/
def pathFault? (path : String) : Option FileFault :=
  if '\x00' ∈ path.toList then some .nullInName
  else if path = "" then some .notFound
  else if 4096 ≤ path.utf8ByteSize then some .nameTooLong
  else none

/-- The steps from the root to where a path begins. -/
def start (path : String) : List String :=
  if Path.isAbsolute path then [] else tree.workingDirectory

/-- The steps from the root along a path. -/
def steps (path : String) : List String := tree.start path ++ Path.steps path

/-- What a path names. -/
def find (path : String) : Except FileFault FileNode :=
  match pathFault? path with
  | some fault => .error fault
  | none => tree.root.walk [] (tree.steps path)

/-- Whether a path names a file. -/
def isFile (path : String) : Bool :=
  match tree.find path with
  | .ok (.file _) => true
  | _ => false

/-- The names in a directory. -/
def list (path : String) : List String :=
  match tree.find path with
  | .ok (.directory entries) => entries.map Prod.fst
  | _ => []

/-- The bytes of a file. -/
def read (path : String) : Except FileFault ByteArray :=
  match tree.find path with
  | .ok (.file bytes) => .ok bytes
  | .ok (.directory _) => .error .isADirectory
  | .error fault => .error fault

/-- The text of a file. -/
def readText (path : String) : Except FileFault String := (tree.read path).bind textOfBytes

/-- The path of the working directory, if it exists. -/
def currentDirectory : Except FileFault String :=
  match tree.root.walk [] tree.workingDirectory with
  | .ok (.directory _) => .ok (Path.ofComponents true tree.workingDirectory)
  | .ok (.file _) => .error .notADirectory
  | .error fault => .error fault

/-! ### Changing -/

/-- The tree in which a path names a file with the given text. -/
def write (path text : String) : Except FileFault FileTree :=
  match pathFault? path with
  | some fault => .error fault
  | none => (tree.root.write (tree.steps path) text).map ({ tree with root := · })

/-- Makes the directories of a path, as far as this is possible; the result is the tree with those that
were made. Nothing can be made in a working directory that does not exist. -/
def createDirectories (path : String) : Except FileFault Unit × FileTree :=
  if path = "" then (.ok (), tree)
  else
    match pathFault? path, tree.root.walk [] (tree.start path) with
    | some fault, _ => (.error fault, tree)
    | none, .error fault => (.error fault, tree)
    | none, .ok (.file _) => (.error .notADirectory, tree)
    | none, .ok (.directory _) =>
      let (result, root) := tree.root.createAll false (tree.start path) (Path.components path)
      (result, { tree with root })

/-! ### Trees as file systems -/

/-- Replaces the tree by a changed one, if the change is possible. -/
def update (change : FileTree → Except FileFault FileTree) :
    StateM FileTree (Except FileFault Unit) := do
  match change (← get) with
  | .ok tree => set tree; return .ok ()
  | .error fault => return .error fault

/-- The file system whose state is a tree. -/
def system : FileSystem (StateM FileTree) where
  isFile path := return (← get).isFile path
  list path := return (← get).list path
  read path := return (← get).read path
  write path text := update (·.write path text)
  createDirectories path := modifyGet (·.createDirectories path)
  currentDirectory := return (← get).currentDirectory

end FileTree

end MigrationPreview
