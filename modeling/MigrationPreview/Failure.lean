import MigrationPreview.Files.Fault

/-!
# Failures of an analysis

Reading a migration never fails. What can fail is access to files, to the schema and to the
configuration.

## Main definitions

* `Failure`: the causes
* `Failure.message`: their wording
-/

namespace MigrationPreview

/-- Why an analysis stopped. -/
inductive Failure where
  /-- A query that concerns no table in particular failed. -/
  | database (message : String)
  /-- No connection to the database could be had. -/
  | pool (message : String)
  /-- The connections to the database could not be set up. -/
  | poolSetup (message : String)
  /-- Reading the structure of a table, or of one of its columns, failed. -/
  | schemaRead (table : String) (column : Option String) (message : String)
  /-- No migration file fits the argument. -/
  | migrationNotFound (argument : String)
  | file (path : String) (fault : FileFault)
  /-- A file does not hold the JSON form of what it should hold. -/
  | json
  | configuration (message : String)
  deriving DecidableEq

namespace Failure

/-- How a table or a column is named in a message. -/
def objectLabel (table : String) : Option String → String
  | some column => s!"'{table}.{column}'"
  | none => s!"'{table}'"

/-- The wording of a failure. -/
def message : Failure → String
  | database m => s!"Database error: {m}"
  | pool m => s!"Pool error: {m}"
  | poolSetup m => s!"Failed to create connection pool: {m}"
  | schemaRead table column m => s!"Schema read failed for {objectLabel table column}: {m}"
  | migrationNotFound argument => s!"Migration file not found: {argument}"
  | file path fault => s!"I/O error on {path}: {fault.message}"
  | json => "JSON error"
  | configuration m => s!"Configuration error: {m}"

end Failure

end MigrationPreview
