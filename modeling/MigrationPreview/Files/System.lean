import MigrationPreview.Files.Fault

/-!
# File systems

The operations on files that the program uses, in whatever monad they take effect.

## Main definitions

* `FileSystem`: the operations
* `FileSystem.readText`: reading a file that is a text
-/

namespace MigrationPreview

/-- Access to files. -/
structure FileSystem (m : Type → Type) where
  /-- Whether a path names a regular file. -/
  isFile : String → m Bool
  /-- The names in a directory, in any order; there are none if it cannot be listed. -/
  list : String → m (List String)
  /-- The bytes of a file. -/
  read : String → m (Except FileFault ByteArray)
  /-- Writes a file, which replaces one of the same name. -/
  write : String → String → m (Except FileFault Unit)
  /-- Makes a directory and the directories around it, as far as they do not exist. -/
  createDirectories : String → m (Except FileFault Unit)
  /-- The path from the root to the directory in which relative paths begin. -/
  currentDirectory : m (Except FileFault String)

/-- The text that some bytes encode. -/
def textOfBytes (bytes : ByteArray) : Except FileFault String :=
  match String.fromUTF8? bytes with
  | some text => .ok text
  | none => .error .notText

/-- The text of a file. -/
def FileSystem.readText {m : Type → Type} [Monad m] (files : FileSystem m) (path : String) :
    m (Except FileFault String) := do
  return (← files.read path).bind textOfBytes

end MigrationPreview
