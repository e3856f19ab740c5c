import MigrationPreview.Migration.Operation
import MigrationPreview.Risk

/-!
# Destructive changes

Operations that lose data or break references. Which operations are destructive depends on their
kind and action alone.

## Main definitions

* `Operation.isDestructive`, `Operation.risk`: whether an operation is destructive, and its risk
* `DestructiveChange`: a destructive operation with what it affects
* `destructiveChanges`: the destructive changes among some operations
-/

namespace MigrationPreview

/-! ### Columns of tables -/

/-- A column of a table. -/
structure ColumnRef where
  table : String
  column : String
  deriving DecidableEq, Inhabited

namespace ColumnRef

/-- By table, then by column. -/
instance : Ord ColumnRef :=
  ⟨compareLex (compareOn ColumnRef.table) (compareOn ColumnRef.column)⟩

instance : Std.TransOrd ColumnRef :=
  inferInstanceAs
    (Std.TransCmp (compareLex (compareOn ColumnRef.table) (compareOn ColumnRef.column)))

instance : JsonForm ColumnRef where
  encode c := .object [("table", encode c.table), ("column", encode c.column)]
  decode? value := do
    let field ← value.fields? ["table", "column"]
    return {
      table := ← (field "table").required
      column := ← (field "column").required }

end ColumnRef

/-! ### Destructive operations -/

namespace Operation

/-- Whether an operation loses data or breaks references. -/
def isDestructive (op : Operation) : Bool :=
  match op.kind, op.action with
  | .table, .drop => true
  | .column, .drop => true
  | .column, .rename => true
  | .index, .drop => true
  | .foreignKey, .drop => true
  | _, _ => false

/-- The risk of an operation. -/
def risk (op : Operation) : RiskLevel :=
  match op.kind, op.action with
  | .table, .drop => .critical
  | .column, .drop => .high
  | .column, .rename => .high
  | .index, .drop => .low
  | _, _ => .medium

/-- The tables that an operation affects: its own and the one it refers to, each once. -/
def affectedTables (op : Operation) : List String :=
  let own := if op.table = "" then [] else [op.table]
  match op.details.referencedTable with
  | some referenced => if referenced = "" ∨ referenced = op.table then own else own ++ [referenced]
  | none => own

/-- The columns that an operation names. -/
def affectedColumns (op : Operation) : List ColumnRef :=
  let details := op.details
  (details.column.toList ++ details.source.toList ++ details.target.toList ++ details.columns).map
    fun column => ⟨op.table, column⟩

end Operation

/-! ### Changes -/

/-- A destructive operation with what it affects. -/
structure DestructiveChange where
  operation : Operation
  risk : RiskLevel
  affectedTables : List String
  affectedColumns : List ColumnRef
  deriving DecidableEq

/-- The change that an operation makes. -/
def DestructiveChange.of (op : Operation) : DestructiveChange :=
  ⟨op, op.risk, op.affectedTables, op.affectedColumns⟩

instance : JsonForm DestructiveChange where
  encode c := .object [
    ("operation", encode c.operation),
    ("riskLevel", encode c.risk),
    ("affectedTables", encode c.affectedTables),
    ("affectedColumns", encode c.affectedColumns)]
  decode? value := do
    let field ← value.fields? ["operation", "riskLevel", "affectedTables", "affectedColumns"]
    return {
      operation := ← (field "operation").required
      risk := ← (field "riskLevel").required
      affectedTables := ← (field "affectedTables").required
      affectedColumns := ← (field "affectedColumns").required }

/-- The destructive changes among some operations, in their order. -/
def destructiveChanges (ops : List Operation) : List DestructiveChange :=
  (ops.filter (·.isDestructive)).map .of

end MigrationPreview
