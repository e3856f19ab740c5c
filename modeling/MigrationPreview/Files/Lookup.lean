import MigrationPreview.Failure
import MigrationPreview.Files.Path
import MigrationPreview.Files.System
import MigrationPreview.Text.Search

/-!
# Finding a migration

A migration may be given by its path, by its name in the directory of migrations, or by a part of
its name.

## Main definitions

* `leastName?`: the first of some names in their order
* `findMigration`: the path of the migration that is meant
-/

namespace MigrationPreview

/-- The first of some names in the order of their characters. -/
def leastName? : List String → Option String
  | [] => none
  | name :: names => some (names.foldl (fun least n => if n < least then n else least) name)

/-- The path of the migration that is meant: the argument itself if it is a file, else the file of
that name in the directory, else the first file in the directory, by name, whose name contains the
argument. -/
def findMigration {m : Type → Type} [Monad m] (files : FileSystem m) (directory argument : String) :
    m (Except Failure String) := do
  if ← files.isFile argument then return .ok argument
  let joined := Path.join directory argument
  if ← files.isFile joined then return .ok joined
  -- a directory may have a fitting name as well
  let names ← (← files.list directory).filterM fun name => do
    return Text.contains argument.toList name.toList && (← files.isFile (Path.join directory name))
  match leastName? names with
  | some name => return .ok (Path.join directory name)
  | none => return .error (.migrationNotFound argument)

end MigrationPreview
