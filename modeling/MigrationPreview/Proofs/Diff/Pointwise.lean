import Mathlib.Algebra.GroupWithZero.Nat
import Mathlib.Data.List.Forall2
import MigrationPreview.Proofs.Diff.Category

/-!
# A diff has one entry for each operation

A comparison of operations with a schema is pointwise if each operation has an entry of its own, in the
category of its kind and in its place among the operations of this kind, and if nothing but the operation
and the table under its name decides what the entry says. Such a comparison loses nothing, counts nothing
twice, and may be made of the parts of a migration one after the other.

## Main definitions

* `Operation.IsDescribedBy`: an entry that repeats what its operation is and where it stands
* `SchemaDiff.IsPointwise`: comparisons with one entry for each operation

## Main results

* `SchemaDiff.sum_countWith`: every entry has exactly one status
* `SchemaDiff.isPointwise_of`: the diff of a migration is pointwise
-/

namespace MigrationPreview

/-- An entry repeats the kind, the action, the table and the line of an operation. -/
structure Operation.IsDescribedBy (op : Operation) (e : DiffEntry) : Prop where
  kind_eq : e.kind = op.kind
  action_eq : e.action = op.action
  table_eq : e.table = op.table
  line_eq : e.line = op.line

theorem Snapshot.isDescribedBy_entry (schema : Snapshot) (op : Operation) :
    op.IsDescribedBy (schema.entry op) :=
  ⟨rfl, rfl, rfl, rfl⟩

/-- The entry of an operation reads one table of a snapshot. -/
theorem Snapshot.entry_congr {schema schema' : Snapshot} {op : Operation}
    (h : schema.tables.get? op.table = schema'.tables.get? op.table) :
    schema.entry op = schema'.entry op :=
  congrArg (DiffEntry.of op) h

namespace SchemaDiff

/-- A comparison has one entry for each operation. -/
structure IsPointwise (diff : List Operation → Snapshot → SchemaDiff) : Prop where
  /-- All categories are present, whether they have entries or not. -/
  keys_eq : ∀ ops schema, (diff ops schema).categories.keys = ObjectKind.all
  /-- The entries of a category are those of the operations of its kind, in the same order. -/
  describes : ∀ ops schema kind, List.Forall₂ Operation.IsDescribedBy
    (ops.filter (·.kind = kind)) ((diff ops schema).category kind)
  /-- The parts of a migration are compared one after the other. -/
  category_append : ∀ ops ops' schema kind, (diff (ops ++ ops') schema).category kind =
    (diff ops schema).category kind ++ (diff ops' schema).category kind
  length_eq : ∀ ops schema, (diff ops schema).length = ops.length
  /-- Every entry is counted under one status. -/
  sum_countWith_eq : ∀ ops schema,
    (DiffStatus.all.map (diff ops schema).countWith).sum = (diff ops schema).length
  /-- An entry reads nothing but the table that is stored under the name of the operation's table. -/
  entry_eq : ∀ (ops : List Operation) (schema schema' : Snapshot) (kind : ObjectKind) (index : Nat)
    (op : Operation), (ops.filter (·.kind = kind))[index]? = some op →
    schema.tables.get? op.table = schema'.tables.get? op.table →
    ((diff ops schema).category kind)[index]? = ((diff ops schema').category kind)[index]?

/-- The entries of a kind are those of the operations of this kind. -/
theorem category_of (ops : List Operation) (schema : Snapshot) (kind : ObjectKind) :
    (of ops schema).category kind = (ops.filter (·.kind = kind)).map schema.entry :=
  (lists_of ops schema).category kind

/-- Every entry has exactly one status. -/
theorem sum_countWith (d : SchemaDiff) : (DiffStatus.all.map d.countWith).sum = d.length := by
  rw [length_entries]
  unfold countWith
  induction d.entries with
  | nil => rfl
  | cons e entries ih =>
    -- one more entry counts once, for its own status
    rw [List.length_cons, ← ih]
    cases hstatus : e.status <;>
      simp [DiffStatus.all, Enumerated.all, hstatus] <;> omega

/-- The diff of a migration has one entry for each operation. -/
theorem isPointwise_of : IsPointwise of where
  keys_eq ops schema := by
    have hlists := lists_of ops schema
    rw [SortedMap.keys, hlists, List.map_map]
    rfl
  describes ops schema kind := by
    rw [category_of, List.forall₂_map_right_iff, List.forall₂_same]
    exact fun op _ => schema.isDescribedBy_entry op
  category_append ops ops' schema kind := by
    rw [category_of, category_of, category_of, List.filter_append, List.map_append]
  length_eq := length_of
  sum_countWith_eq ops schema := (of ops schema).sum_countWith
  entry_eq ops schema schema' kind index op hop htable := by
    rw [category_of, category_of, List.getElem?_map, List.getElem?_map, hop, Option.map_some,
      Option.map_some, Snapshot.entry_congr htable]

end SchemaDiff

end MigrationPreview
