import MigrationPreview.Digest.Sha256
import MigrationPreview.Schema.Table
import MigrationPreview.Time.Timestamp

/-!
# Schema snapshots

A snapshot holds the tables of a schema at one point in time, by name, and a checksum of them.
Snapshots are kept in files, so a table may stand under a key that is not its name, and a recorded
checksum may be stale.

## Main definitions

* `Snapshot`: the type of snapshots
* `Snapshot.checksumText`, `Snapshot.computeChecksum`: what the checksum covers, and the checksum
* `Snapshot.ofTables`: the snapshot of a list of tables
* `Snapshot.referencingTables`: the tables whose foreign keys refer to a table
* `SnapshotMetadata`: the short form of a snapshot
-/

namespace MigrationPreview

/-- The tables of a schema at one point in time. -/
structure Snapshot where
  capturedAt : Instant
  schema : String
  tables : SortedMap String Table
  checksum : String
  deriving DecidableEq

instance : JsonForm Snapshot where
  encode s := .object [
    ("capturedAt", encode s.capturedAt),
    ("schema", encode s.schema),
    ("tables", encode s.tables),
    ("checksum", encode s.checksum)]
  decode? value := do
    let field ← value.fields? ["capturedAt", "schema", "tables", "checksum"]
    return {
      capturedAt := ← (field "capturedAt").required
      schema := ← (field "schema").orElse "public"
      tables := ← (field "tables").orElse ∅
      checksum := ← (field "checksum").orElse "" }

namespace Snapshot

/-! ### Checksums -/

/-- What the checksum covers of a table that stands under the key `key`. -/
def tableText (key : String) (t : Table) : String :=
  let columns := t.columns.map fun c => key ++ "." ++ c.name ++ ":" ++ c.dataType
  let indexes := t.indexes.map fun i => "IX:" ++ i.name ++ "(" ++ ",".intercalate i.columns ++ ")"
  let keys := t.foreignKeys.map fun k => "FK:" ++ k.name ++ "->" ++ k.referencedTable
  let settings := [t.engine, t.charset, t.collation].map (·.getD "-")
  String.join (key :: columns ++ indexes ++ keys ++ settings)

/-- The text whose digest is the checksum of some tables. -/
def checksumText (tables : SortedMap String Table) : String :=
  String.join (tables.entries.map fun e => tableText e.1 e.2)

/-- The checksum of some tables. -/
def computeChecksum (tables : SortedMap String Table) : String :=
  Sha256.hexDigest (checksumText tables)

/-! ### Contents -/

/-- Some tables by their names; of several tables with one name the last counts. -/
def tablesByName (tables : List Table) : SortedMap String Table :=
  .ofList (tables.map fun t => (t.name, t))

/-- The snapshot of some tables. -/
def ofTables (capturedAt : Instant) (schema : String) (tables : List Table) : Snapshot :=
  let tables := tablesByName tables
  ⟨capturedAt, schema, tables, computeChecksum tables⟩

/-- The table under a key. -/
def table? (s : Snapshot) (key : String) : Option Table := s.tables.get? key

/-- Whether there is a table under a key. -/
def hasTable (s : Snapshot) (key : String) : Bool := s.tables.contains key

/-- Whether there is a table under a key that has a column with a given name. -/
def hasColumn (s : Snapshot) (key column : String) : Bool :=
  (s.table? key).any (·.hasColumn column)

/-- The names of the other tables with a foreign key that refers to a table, in the order of their
keys. -/
def referencingTables (s : Snapshot) (table : String) : List String :=
  (s.tables.values.filter fun t =>
    t.name ≠ table && t.foreignKeys.any (·.referencedTable = table)).map Table.name

end Snapshot

/-! ### Metadata -/

/-- The short form of a snapshot, for messages and reports. -/
structure SnapshotMetadata where
  schema : String
  capturedAt : Instant
  checksum : String
  tableCount : Nat
  foreignKeyCount : Nat
  indexCount : Nat
  deriving DecidableEq

/-- The short form of a snapshot. -/
def Snapshot.metadata (s : Snapshot) : SnapshotMetadata where
  schema := s.schema
  capturedAt := s.capturedAt
  checksum := s.checksum
  tableCount := s.tables.size
  foreignKeyCount := s.tables.values.foldl (fun count t => count + t.foreignKeys.length) 0
  indexCount := s.tables.values.foldl (fun count t => count + t.indexes.length) 0

instance : JsonForm SnapshotMetadata where
  encode m := .object [
    ("schema", encode m.schema),
    ("capturedAt", encode m.capturedAt),
    ("checksum", encode m.checksum),
    ("tableCount", encode m.tableCount),
    ("fkCount", encode m.foreignKeyCount),
    ("indexCount", encode m.indexCount)]
  decode? value := do
    let field ← value.fields?
      ["schema", "capturedAt", "checksum", "tableCount", "fkCount", "indexCount"]
    return {
      schema := ← (field "schema").required
      capturedAt := ← (field "capturedAt").required
      checksum := ← (field "checksum").required
      tableCount := ← (field "tableCount").required
      foreignKeyCount := ← (field "fkCount").required
      indexCount := ← (field "indexCount").required }

end MigrationPreview
