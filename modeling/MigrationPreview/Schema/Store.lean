import MigrationPreview.Failure
import MigrationPreview.Files.System
import MigrationPreview.Json.Printer
import MigrationPreview.Schema.Snapshot

/-!
# Snapshot files

A snapshot is written as indented JSON and can take the place of the database later. The checksum in
a file is not trusted: it is computed anew whenever a file is read.

## Main definitions

* `Snapshot.fileText`: the text of a snapshot file
* `LoadedSnapshot`: what is read from a file
* `loadSnapshot`, `saveSnapshot`: reading and writing
-/

namespace MigrationPreview

namespace Snapshot

/-- The snapshot with the checksum of its tables. -/
def withComputedChecksum (s : Snapshot) : Snapshot :=
  { s with checksum := computeChecksum s.tables }

/-- The text of the file that holds a snapshot. -/
def fileText (s : Snapshot) : String := Json.renderIndented (encode s)

end Snapshot

/-- A snapshot as it is read from a file. -/
structure LoadedSnapshot where
  snapshot : Snapshot
  /-- The checksum in the file, which is empty if there is none. -/
  recordedChecksum : String
  deriving DecidableEq

namespace LoadedSnapshot

/-- Whether the tables were changed after the checksum was recorded. -/
def isStale (l : LoadedSnapshot) : Bool :=
  l.recordedChecksum ≠ "" && l.recordedChecksum ≠ l.snapshot.checksum

/-- The snapshot in the text of a file. -/
def ofText? (text : String) : Option LoadedSnapshot := do
  let recorded : Snapshot ← decode? (← Json.parse text)
  return ⟨recorded.withComputedChecksum, recorded.checksum⟩

end LoadedSnapshot

/-- Reads a snapshot file. -/
def loadSnapshot {m : Type → Type} [Monad m] (files : FileSystem m) (path : String) :
    m (Except Failure LoadedSnapshot) := do
  match ← files.readText path with
  | .error fault => return .error (.file path fault)
  | .ok text =>
    match LoadedSnapshot.ofText? text with
    | some loaded => return .ok loaded
    | none => return .error .json

/-- Writes a snapshot file. -/
def saveSnapshot {m : Type → Type} [Monad m] (files : FileSystem m) (path : String)
    (s : Snapshot) : m (Except Failure SnapshotMetadata) := do
  match ← files.write path s.fileText with
  | .error fault => return .error (.file path fault)
  | .ok () => return .ok s.metadata

end MigrationPreview
