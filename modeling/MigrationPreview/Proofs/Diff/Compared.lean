import Mathlib.Data.List.Basic
import MigrationPreview.Diff.Basic

/-!
# What a diff compares

A diff reads little of a table: the names and types of columns, the names and columns of indexes, the names
and columns of foreign keys with the tables they refer to, and the settings. Everything else in a snapshot
may change without a change of any diff.

## Main definitions

* `Table.compared`: the part of a table that diffs read
* `Table.covered`: the same without the columns of foreign keys

## Main results

* `Operation.finding_compared`, `Operation.finding_covered`: a diff reads nothing else
* `SchemaDiff.of_congr`: snapshots whose tables have the same parts have the same diffs
-/

namespace MigrationPreview

/-! ### Parts of tables -/

/-- The part of a column that diffs read. -/
def Column.compared (c : Column) : Column := { name := c.name, dataType := c.dataType }

/-- The part of an index that diffs read. -/
def Index.compared (i : Index) : Index := { name := i.name, columns := i.columns }

/-- The part of a foreign key that diffs read. -/
def ForeignKey.compared (k : ForeignKey) : ForeignKey :=
  { name := k.name, columns := k.columns, referencedTable := k.referencedTable }

/-- The part of a foreign key that diffs read, but for its columns. -/
def ForeignKey.covered (k : ForeignKey) : ForeignKey := { k.compared with columns := [] }

namespace Table

/-- The part of a table that diffs read. Even the name of the table is not read, since tables are found by
their keys. -/
def compared (t : Table) : Table where
  name := ""
  columns := t.columns.map Column.compared
  indexes := t.indexes.map Index.compared
  foreignKeys := t.foreignKeys.map ForeignKey.compared
  engine := t.engine
  charset := t.charset
  collation := t.collation

/-- The part of a table that diffs read, but for the columns of its foreign keys. -/
def covered (t : Table) : Table :=
  { t.compared with foreignKeys := t.foreignKeys.map ForeignKey.covered }

section

variable (t : Table) (name : String) (columns : List String)

theorem column?_compared : t.compared.column? name = (t.column? name).map Column.compared :=
  List.find?_map

theorem hasColumn_compared : t.compared.hasColumn name = t.hasColumn name :=
  List.any_map

theorem indexNamed?_compared : t.compared.indexNamed? name = (t.indexNamed? name).map Index.compared :=
  List.find?_map

theorem indexOn?_compared : t.compared.indexOn? columns = (t.indexOn? columns).map Index.compared :=
  List.find?_map

theorem foreignKeyNamed?_compared :
    t.compared.foreignKeyNamed? name = (t.foreignKeyNamed? name).map ForeignKey.compared :=
  List.find?_map

theorem foreignKeyOn?_compared :
    t.compared.foreignKeyOn? columns = (t.foreignKeyOn? columns).map ForeignKey.compared :=
  List.find?_map

theorem foreignKeyTo?_compared :
    t.compared.foreignKeyTo? name columns = (t.foreignKeyTo? name columns).map ForeignKey.compared :=
  List.find?_map

end

theorem map_foreignKey_compared (keys : List ForeignKey) :
    keys.map ForeignKey.compared =
      List.zipWith (fun k columns => { k with columns := columns }) (keys.map ForeignKey.covered)
        (keys.map (·.columns)) := by
  induction keys with
  | nil => rfl
  | cons k keys ih =>
    rw [List.map_cons, ih]
    rfl

theorem compared_eq (t : Table) :
    t.compared = { t.covered with
      foreignKeys := List.zipWith (fun k columns => { k with columns := columns }) t.covered.foreignKeys
        (t.foreignKeys.map (·.columns)) } := by
  unfold covered compared
  rw [map_foreignKey_compared]

/-- Where the covered parts agree and the foreign keys have the same columns, diffs read the same. -/
theorem compared_eq_of_covered_eq {t t' : Table} (h : t.covered = t'.covered)
    (hcolumns : t.foreignKeys.map (·.columns) = t'.foreignKeys.map (·.columns)) :
    t.compared = t'.compared := by
  rw [compared_eq, compared_eq, h, hcolumns]

end Table

/-! ### Findings -/

namespace Operation

variable (op : Operation)

theorem tableFinding_map (f : Table → Table) (table : Option Table) :
    op.tableFinding (table.map f) = op.tableFinding table := by
  rw [tableFinding, tableFinding, Option.isSome_map]

theorem renameFinding_compared (table : Option Table) :
    op.renameFinding (table.map Table.compared) = op.renameFinding table := by
  cases table with
  | none => rfl
  | some t => simp only [renameFinding, Option.map_some, Option.any_some, t.hasColumn_compared]

theorem columnFinding_compared (table : Option Table) :
    op.columnFinding (table.map Table.compared) = op.columnFinding table := by
  cases table with
  | none => rfl
  | some t =>
    simp only [columnFinding, Option.map_some, Option.bind_some, t.column?_compared, Option.isSome_map,
      Option.map_map]
    rfl

theorem index?_compared (t : Table) : op.index? t.compared = (op.index? t).map Index.compared := by
  have hon : op.indexOnColumns? t.compared = (op.indexOnColumns? t).map Index.compared := by
    rw [indexOnColumns?, indexOnColumns?]
    split
    · rfl
    · exact t.indexOn?_compared _
  unfold index?
  cases op.details.name with
  | none => exact hon
  | some name =>
    dsimp only
    rw [t.indexNamed?_compared, hon]
    split
    · rfl
    · cases t.indexNamed? name <;> rfl

theorem indexFinding_compared (table : Option Table) :
    op.indexFinding (table.map Table.compared) = op.indexFinding table := by
  cases table with
  | none => rfl
  | some t =>
    simp only [indexFinding, Option.map_some, Option.bind_some, op.index?_compared, Option.isSome_map,
      Option.map_map]
    rfl

theorem newKeyFinding_compared (table : Option Table) :
    op.newKeyFinding (table.map Table.compared) = op.newKeyFinding table := by
  cases table with
  | none => rfl
  | some t =>
    simp only [newKeyFinding, Option.map_some, Option.bind_some, t.foreignKeyTo?_compared,
      Option.isSome_map]

theorem foreignKey?_compared (t : Table) :
    op.foreignKey? t.compared = (op.foreignKey? t).map ForeignKey.compared := by
  have hon : (if op.details.columns.isEmpty then none else t.compared.foreignKeyOn? op.details.columns) =
      (if op.details.columns.isEmpty then none else t.foreignKeyOn? op.details.columns).map
        ForeignKey.compared := by
    split
    · rfl
    · exact t.foreignKeyOn?_compared _
  rw [foreignKey?, foreignKey?, hon]
  cases op.details.name with
  | none => rfl
  | some name =>
    rw [Option.bind_some, Option.bind_some, t.foreignKeyNamed?_compared]
    cases t.foreignKeyNamed? name <;> rfl

theorem keyFinding_compared (table : Option Table) :
    op.keyFinding (table.map Table.compared) = op.keyFinding table := by
  cases table with
  | none => rfl
  | some t =>
    simp only [keyFinding, Option.map_some, Option.bind_some, op.foreignKey?_compared, Option.isSome_map,
      Option.map_map]
    rfl

theorem settingFinding_compared (table : Option Table) :
    op.settingFinding (table.map Table.compared) = op.settingFinding table := by
  cases table <;> rfl

/-- A diff reads nothing but the compared part of a table. -/
theorem finding_compared (table : Option Table) :
    op.finding (table.map Table.compared) = op.finding table := by
  unfold finding
  rw [op.tableFinding_map, op.renameFinding_compared, op.columnFinding_compared, op.indexFinding_compared,
    op.newKeyFinding_compared, op.keyFinding_compared, op.settingFinding_compared]

/-- Only operations on foreign keys read the columns of foreign keys. -/
theorem finding_covered (h : op.kind ≠ .foreignKey) (table : Option Table) :
    op.finding (table.map Table.covered) = op.finding table := by
  rw [← op.finding_compared table]
  cases table with
  | none => rfl
  | some t =>
    cases hkind : op.kind with
    | foreignKey => exact absurd hkind h
    | table | column | index | engine | charset | collation =>
      simp only [finding, hkind]
      rfl

end Operation

/-! ### Diffs -/

/-- Two snapshots have the same diff if, for every operation, the tables under the name of its table have the
same covered part, and for operations on foreign keys foreign keys with the same columns. -/
theorem SchemaDiff.of_congr {s s' : Snapshot} {ops : List Operation}
    (hcovered : ∀ op ∈ ops, (s.table? op.table).map Table.covered = (s'.table? op.table).map Table.covered)
    (hkeys : ∀ op ∈ ops, op.kind = .foreignKey → ∀ t t', s.table? op.table = some t →
      s'.table? op.table = some t' →
      t.foreignKeys.map (·.columns) = t'.foreignKeys.map (·.columns)) :
    SchemaDiff.of ops s = SchemaDiff.of ops s' := by
  have hentry : ∀ op ∈ ops, DiffEntry.of op (s.table? op.table) = DiffEntry.of op (s'.table? op.table) := by
    intro op hop
    have hcovered := hcovered op hop
    have hfinding : op.finding (s.table? op.table) = op.finding (s'.table? op.table) := by
      by_cases hkind : op.kind = .foreignKey
      · -- the columns complete the covered parts
        have hcompared : (s.table? op.table).map Table.compared =
            (s'.table? op.table).map Table.compared := by
          cases ht : s.table? op.table with
          | none => cases ht' : s'.table? op.table <;> simp_all
          | some t =>
            cases ht' : s'.table? op.table with
            | none => simp_all
            | some t' =>
              rw [ht, ht'] at hcovered
              rw [Option.map_some, Option.map_some, Table.compared_eq_of_covered_eq
                (Option.some.inj hcovered) (hkeys op hop hkind t t' ht ht')]
        rw [← op.finding_compared, hcompared, op.finding_compared]
      · rw [← op.finding_covered hkind, hcovered, op.finding_covered hkind]
    rw [DiffEntry.of, DiffEntry.of, hfinding]
  exact List.foldl_ext _ _ _ fun d op hop => by rw [hentry op hop]

end MigrationPreview
