import MigrationPreview.Migration.Operation
import MigrationPreview.Sql.Dialect

/-!
# Statements in SQL

The statements that destructive operations run, in the dialect of the database.

## Main definitions

* `Dialect.statement?`: the statement of an operation
* `SqlLine`: a statement with the line of the migration that causes it
* `Dialect.sqlLines`: the statements of some operations
-/

namespace MigrationPreview

/-- The statement of an operation. Operations that are not destructive have none, and neither have
those that do not name what they drop or rename. -/
def Dialect.statement? (d : Dialect) (op : Operation) : Option String :=
  let table := d.quote op.table
  match op.kind, op.action with
  | .table, .drop => some s!"DROP TABLE IF EXISTS {table};"
  | .column, .drop => do
    let column := d.quote (← op.details.column)
    return s!"ALTER TABLE {table} DROP COLUMN {column};"
  | .column, .rename => do
    let source := d.quote (← op.details.source)
    let target := d.quote (← op.details.target)
    return s!"ALTER TABLE {table} RENAME COLUMN {source} TO {target};"
  | .index, .drop => do
    let index := d.quote (← op.details.name)
    return match d with
      | .postgres => s!"DROP INDEX {index};"
      | .mySql => s!"ALTER TABLE {table} DROP INDEX {index};"
  | .foreignKey, .drop => do
    let constraint := d.quote (← op.details.name)
    return match d with
      | .postgres => s!"ALTER TABLE {table} DROP CONSTRAINT {constraint};"
      | .mySql => s!"ALTER TABLE {table} DROP FOREIGN KEY {constraint};"
  | _, _ => none

/-- A statement with the line of the migration that causes it. -/
structure SqlLine where
  line : Nat
  kind : ObjectKind
  action : Action
  sql : String
  deriving DecidableEq

instance : JsonForm SqlLine where
  encode l := .object [
    ("line", encode l.line),
    ("kind", encode l.kind),
    ("action", encode l.action),
    ("sql", encode l.sql)]
  decode? value := do
    let field ← value.fields? ["line", "kind", "action", "sql"]
    return {
      line := ← (field "line").required
      kind := ← (field "kind").required
      action := ← (field "action").required
      sql := ← (field "sql").required }

/-- The statements of some operations, in their order. -/
def Dialect.sqlLines (d : Dialect) (ops : List Operation) : List SqlLine :=
  ops.filterMap fun op => (d.statement? op).map fun sql => ⟨op.line, op.kind, op.action, sql⟩

end MigrationPreview
