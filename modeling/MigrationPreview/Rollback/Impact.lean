import MigrationPreview.Destructive

/-!
# The impact of a rollback

What a rollback drops, collected in four sets, and its overall risk.

## Main definitions

* `ObjectRef`: an index or a constraint of a table
* `RollbackImpact`: what a rollback drops
* `RollbackImpact.of`: the impact of some steps
-/

namespace MigrationPreview

/-- An index or a constraint of a table. -/
structure ObjectRef where
  table : String
  name : String
  deriving DecidableEq, Inhabited

namespace ObjectRef

/-- By table, then by name. -/
instance : Ord ObjectRef := ⟨compareLex (compareOn ObjectRef.table) (compareOn ObjectRef.name)⟩

instance : Std.TransOrd ObjectRef :=
  inferInstanceAs (Std.TransCmp (compareLex (compareOn ObjectRef.table) (compareOn ObjectRef.name)))

instance : JsonForm ObjectRef where
  encode o := .object [("table", encode o.table), ("name", encode o.name)]
  decode? value := do
    let field ← value.fields? ["table", "name"]
    return {
      table := ← (field "table").required
      name := ← (field "name").required }

end ObjectRef

/-- What a rollback drops. -/
structure RollbackImpact where
  tables : SortedSet String := ∅
  columns : SortedSet ColumnRef := ∅
  indexes : SortedSet ObjectRef := ∅
  foreignKeys : SortedSet ObjectRef := ∅
  risk : RiskLevel := .low
  deriving DecidableEq

instance : JsonForm RollbackImpact where
  encode i := .object [
    ("tablesAffected", encode i.tables),
    ("columnsAffected", encode i.columns),
    ("indexesAffected", encode i.indexes),
    ("foreignKeysAffected", encode i.foreignKeys),
    ("riskLevel", encode i.risk)]
  decode? value := do
    let field ← value.fields? ["tablesAffected", "columnsAffected", "indexesAffected",
      "foreignKeysAffected", "riskLevel"]
    return {
      tables := ← (field "tablesAffected").required
      columns := ← (field "columnsAffected").required
      indexes := ← (field "indexesAffected").required
      foreignKeys := ← (field "foreignKeysAffected").required
      risk := ← (field "riskLevel").required }

/-- What one step adds to the risk of a rollback. -/
def Operation.rollbackRisk? (op : Operation) : Option RiskLevel :=
  match op.kind, op.action with
  | .table, .drop => some .critical
  | .column, .drop => some .high
  | .foreignKey, .drop => some .medium
  | _, _ => none

namespace RollbackImpact

/-- The impact with what one step drops. The risk is left alone. -/
def addDropped (impact : RollbackImpact) (op : Operation) : RollbackImpact :=
  match op.kind, op.action with
  | .table, .drop => { impact with tables := .add impact.tables op.table }
  | .column, .drop =>
    match op.details.column with
    | some column => { impact with columns := .add impact.columns ⟨op.table, column⟩ }
    | none => impact
  | .index, .drop =>
    { impact with indexes := .add impact.indexes ⟨op.table, op.details.name.getD ""⟩ }
  | .foreignKey, .drop =>
    { impact with foreignKeys := .add impact.foreignKeys ⟨op.table, op.details.name.getD ""⟩ }
  | _, _ => impact

/-- The impact of some steps. -/
def of (ops : List Operation) : RollbackImpact :=
  { ops.foldl addDropped {} with risk := .highest (ops.filterMap Operation.rollbackRisk?) }

end RollbackImpact

end MigrationPreview
