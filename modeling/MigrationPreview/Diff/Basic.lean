import MigrationPreview.Diff.Entry
import MigrationPreview.Schema.Snapshot

/-!
# Schema diffs

The comparison of the operations of a migration with a schema, by kind of object. A diff depends on
nothing but the operations and the snapshot of the schema.

## Main definitions

* `SchemaDiff`: entries by kind
* `SchemaDiff.of`: the diff of operations against a snapshot
* `SchemaDiff.summary`: how many entries have which status
-/

namespace MigrationPreview

/-- Entries by the kind of their operation. -/
structure SchemaDiff where
  categories : SortedMap ObjectKind (List DiffEntry)
  deriving DecidableEq

instance : JsonForm SchemaDiff where
  encode d := encode d.categories
  decode? value := (decode? value).map SchemaDiff.mk

namespace SchemaDiff

/-- The diff in which every kind is present and has no entries. -/
def empty : SchemaDiff := ⟨.ofList (ObjectKind.all.map fun kind => (kind, []))⟩

/-- The diff with one more entry, behind the others of its kind. -/
def push (d : SchemaDiff) (e : DiffEntry) : SchemaDiff :=
  ⟨d.categories.alter e.kind fun known => known.getD [] ++ [e]⟩

/-- The diff of some operations against a snapshot. -/
def of (ops : List Operation) (schema : Snapshot) : SchemaDiff :=
  ops.foldl (fun d op => d.push (.of op (schema.table? op.table))) empty

/-- The entries of a kind. -/
def category (d : SchemaDiff) (kind : ObjectKind) : List DiffEntry :=
  (d.categories.get? kind).getD []

/-- All entries, kind by kind. -/
def entries (d : SchemaDiff) : List DiffEntry := d.categories.values.flatten

/-- The number of entries. -/
def length (d : SchemaDiff) : Nat :=
  d.categories.values.foldl (fun count entries => count + entries.length) 0

/-- The number of entries with a given status. -/
def countWith (d : SchemaDiff) (status : DiffStatus) : Nat :=
  d.entries.countP fun e => e.status = status

/-- How many entries have which status, leaving out statuses that no entry has. -/
def summary (d : SchemaDiff) : String :=
  let parts := DiffStatus.all.filterMap fun status =>
    if d.countWith status = 0 then none
    else some s!"{status.name} {d.countWith status}"
  if parts.isEmpty then "no entries" else ", ".intercalate parts

end SchemaDiff

end MigrationPreview
