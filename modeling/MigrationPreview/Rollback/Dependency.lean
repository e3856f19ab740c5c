import MigrationPreview.Migration.Operation
import MigrationPreview.Risk
import MigrationPreview.Schema.Provider

/-!
# Dependencies of a rollback

What the steps of a rollback may break. For tables that are dropped, the provider is asked whether
the table exists and which tables refer to it; no other step asks anything.

## Main definitions

* `DependencyWarning`: something that a step may break
* `Operation.dependencyWarning?`: the warning of one step
* `dependencyWarnings`: the warnings of some steps
-/

namespace MigrationPreview

/-- What kind of step a warning is about. -/
inductive DependencyKind where
  | foreignKeyDrop
  | indexDrop
  | columnDrop
  | tableDrop
  deriving DecidableEq, Inhabited

instance : Enumerated DependencyKind where
  all := [.foreignKeyDrop, .indexDrop, .columnDrop, .tableDrop]
  name
    | .foreignKeyDrop => "foreign_key_drop"
    | .indexDrop => "index_drop"
    | .columnDrop => "column_drop"
    | .tableDrop => "table_drop"

/-- Something that a step of a rollback may break. -/
structure DependencyWarning where
  kind : DependencyKind
  table : String
  column : Option String := none
  name : Option String := none
  referencingTables : List String := []
  risk : RiskLevel
  message : String
  deriving DecidableEq

instance : JsonForm DependencyWarning where
  encode w := .object <|
    [("kind", encode w.kind), ("table", encode w.table)] ++
      Json.optionalMember "column" encode w.column ++
      Json.optionalMember "name" encode w.name ++
      Json.nonemptyMember "referencingTables" encode w.referencingTables ++
      [("risk", encode w.risk), ("message", encode w.message)]
  decode? value := do
    let field ← value.fields?
      ["kind", "table", "column", "name", "referencingTables", "risk", "message"]
    return {
      kind := ← (field "kind").required
      table := ← (field "table").required
      column := ← (field "column").orElse none
      name := ← (field "name").orElse none
      referencingTables := ← (field "referencingTables").orElse []
      risk := ← (field "risk").required
      message := ← (field "message").required }

section

variable {m : Type → Type} [Monad m] (provider : Provider m)

/-- The warning of a table that is dropped: there is one if the table exists and other tables refer
to it. -/
def tableDropWarning? (table : String) : m (Option DependencyWarning) := do
  if ← provider (.tableExists table) then
    let referencing ← provider (.referencingTables table)
    if referencing.isEmpty then return none
    else
      let names := ", ".intercalate referencing
      return some {
        kind := .tableDrop
        table := table
        referencingTables := referencing
        risk := .critical
        message := s!"Dropping table will break foreign keys in: {names}" }
  else return none

/-- The warning of one step of a rollback, if it may break something. -/
def Operation.dependencyWarning? (op : Operation) : m (Option DependencyWarning) :=
  match op.kind, op.action with
  | .foreignKey, .drop => return some {
      kind := .foreignKeyDrop
      table := op.table
      name := op.details.name
      risk := .medium
      message := "Dropping foreign key may break referential integrity" }
  | .index, .drop => return some {
      kind := .indexDrop
      table := op.table
      name := op.details.name
      risk := .low
      message := "Dropping index may affect query performance" }
  | .column, .drop => return some {
      kind := .columnDrop
      table := op.table
      column := op.details.column
      risk := .high
      message := "Dropping column may break dependent database objects" }
  | .table, .drop => tableDropWarning? provider op.table
  | _, _ => return none

/-- The warnings of some steps, in their order. The provider is asked step by step. -/
def dependencyWarnings : List Operation → m (List DependencyWarning)
  | [] => return []
  | op :: ops => do
    let warning ← op.dependencyWarning? provider
    let warnings ← dependencyWarnings ops
    return warning.toList ++ warnings

end

end MigrationPreview
