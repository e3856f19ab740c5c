import MigrationPreview.Catalog.Session
import MigrationPreview.Schema.Provider

/-!
# Introspection of a live schema

Answers to the questions about the current schema from the catalog of a database. A call ends with
the first query that fails or value that cannot be decoded; it never gives a part of a schema.

## Main definitions

* `Introspection.readTable`: one table
* `Introspection.currentSchema`: all tables
* `Introspection.tableStructure`: a table that may not exist
* `Introspection.provider`: the provider that asks a live database
-/

namespace MigrationPreview.Introspection

open Session

/-! ### Rows -/

/-- The settings that all tables of a database share. -/
structure DatabaseDefaults where
  charset : Option String := none
  collation : Option String := none
  deriving DecidableEq

/-- The settings in a row. -/
def defaultsOfRow (row : Row) : Session DatabaseDefaults := do
  let charset ← decoded "charset" (row.nullableText? "charset")
  let collation ← decoded "collation" (row.nullableText? "collation")
  return { charset, collation }

/-- The column in a row. -/
def columnOfRow (row : Row) : Session Column := do
  let name ← decoded "column_name" (row.text? "column_name")
  let dataType ← decoded "data_type" (row.text? "data_type")
  let isNullable ← decoded "is_nullable" (row.text? "is_nullable")
  let defaultValue ← decoded "column_default" (row.nullableText? "column_default")
  let ordinalPosition ← decoded "ordinal_position" (row.int4? "ordinal_position")
  return { name, dataType, nullable := isNullable = "YES", defaultValue, ordinalPosition }

/-- The index in a row. -/
def indexOfRow (row : Row) : Session Index := do
  let name ← decoded "index_name" (row.text? "index_name")
  let isUnique ← decoded "is_unique" (row.flag? "is_unique")
  let isPrimary ← decoded "is_primary" (row.flag? "is_primary")
  return { name, columns := row.texts "columns", isUnique, isPrimary }

/-- The foreign key in a row. -/
def foreignKeyOfRow (row : Row) : Session ForeignKey := do
  let name ← decoded "constraint_name" (row.text? "constraint_name")
  let referencedTable ← decoded "referenced_table" (row.text? "referenced_table")
  let onUpdate ← decoded "on_update" (row.nullableText? "on_update")
  let onDelete ← decoded "on_delete" (row.nullableText? "on_delete")
  return {
    name
    columns := row.texts "columns"
    referencedTable
    referencedColumns := row.texts "referenced_columns"
    onUpdate
    onDelete }

/-- The name of the table in a row. -/
def tableNameOfRow (row : Row) : Session String := decoded "table_name" (row.text? "table_name")

/-! ### Calls -/

/-- The failure of a query about a table. -/
def tableFailure (table message : String) : Failure := .schemaRead table none message

/-- The settings of the database: those of the first row, and none if there is no row. -/
def readDefaults : Session DatabaseDefaults := do
  match (← send .settings .database).toRows with
  | row :: _ => defaultsOfRow row
  | [] => return {}

/-- The table of a given name with its columns, indexes and foreign keys. -/
def readTable (schema : String) (defaults : DatabaseDefaults) (table : String) :
    Session Table := do
  let columns ← (← send (.columns schema table) (tableFailure table)).toRows.mapM columnOfRow
  let indexes ← (← send (.indexes schema table) (tableFailure table)).toRows.mapM indexOfRow
  let foreignKeys ←
    (← send (.foreignKeys schema table) (tableFailure table)).toRows.mapM foreignKeyOfRow
  return {
    name := table
    columns
    indexes
    foreignKeys
    charset := defaults.charset
    collation := defaults.collation }

/-- Whether the schema has a base table of a given name. -/
def readFound (schema table : String) : Session Bool := do
  let row ← sendForRow (.tableFound schema table) (tableFailure table)
  decoded "found" (row.flag? "found")

/-- All tables of the schema, as they are at the time `now`. -/
def currentSchema (schema : String) (now : Instant) : Session Snapshot := do
  connect
  let defaults ← readDefaults
  let list ← send (.tableList schema) (tableFailure (schema ++ ".*"))
  let tables ← list.toRows.mapM fun row => do
    readTable schema defaults (← tableNameOfRow row)
  return .ofTables now schema tables

/-- The table of a given name, if it exists. -/
def tableStructure (schema table : String) : Session (Option Table) := do
  connect
  if ← readFound schema table then
    let defaults ← readDefaults
    return some (← readTable schema defaults table)
  else return none

/-- Whether a table of a given name exists. -/
def tableExists (schema table : String) : Session Bool := do
  connect
  readFound schema table

/-- Whether a table has a column of a given name. -/
def columnExists (schema table column : String) : Session Bool := do
  connect
  let row ← sendForRow (.columnFound schema table column) (.schemaRead table (some column))
  decoded "found" (row.flag? "found")

/-- The names of the other tables whose foreign keys refer to a table. -/
def referencingTables (schema table : String) : Session (List String) := do
  connect
  let found ← send (.referencingTables schema table) (tableFailure table)
  found.toRows.mapM tableNameOfRow

/-- The provider that asks a live database about a schema. -/
def provider (schema : String) (now : Instant) : Provider Session
  | .currentSchema => currentSchema schema now
  | .tableExists table => tableExists schema table
  | .columnExists table column => columnExists schema table column
  | .tableStructure table => tableStructure schema table
  | .referencingTables table => referencingTables schema table

end MigrationPreview.Introspection
