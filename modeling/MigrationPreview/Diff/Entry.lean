import MigrationPreview.Diff.Status
import MigrationPreview.Schema.Table

/-!
# Entries of a diff

One operation compared with the table it concerns: whether its object exists, the status that
follows from it, and a message. The comparison looks at nothing but the operation and the table that
the schema has under the name of the operation's table.

## Main definitions

* `DiffDetail`, `DiffEntry`: what is reported about an operation
* `Finding`: what the comparison finds out
* `Operation.finding`: the comparison
* `DiffEntry.of`: the entry of an operation
-/

namespace MigrationPreview

/-! ### What is reported -/

/-- The fields of an entry that only some kinds of operation have. -/
structure DiffDetail where
  column : Option String := none
  columnType : Option String := none
  source : Option String := none
  target : Option String := none
  /-- Whether the new name of a renamed column is taken. -/
  targetExists : Option Bool := none
  name : Option String := none
  columns : List String := []
  referencedTable : Option String := none
  /-- The data type of the column, or the value of the setting, in the current schema. -/
  current : Option String := none
  /-- The value of the setting that the migration asks for. -/
  requested : Option String := none
  deriving DecidableEq, Inhabited

/-- One operation compared with the current schema. -/
structure DiffEntry where
  kind : ObjectKind
  action : Action
  table : String
  line : Nat
  status : DiffStatus
  message : String
  existsBefore : Bool
  detail : DiffDetail
  deriving DecidableEq, Inhabited

/-- The detail stands among the members of the entry, which is read from objects only. -/
instance : JsonForm DiffEntry where
  encode e := .object <|
    [("kind", encode e.kind),
      ("action", encode e.action),
      ("table", encode e.table),
      ("line", encode e.line),
      ("status", encode e.status),
      ("message", encode e.message),
      ("existsBefore", encode e.existsBefore)] ++
      Json.optionalMember "column" encode e.detail.column ++
      Json.optionalMember "type" encode e.detail.columnType ++
      Json.optionalMember "from" encode e.detail.source ++
      Json.optionalMember "to" encode e.detail.target ++
      Json.optionalMember "toExists" encode e.detail.targetExists ++
      Json.optionalMember "name" encode e.detail.name ++
      Json.nonemptyMember "columns" encode e.detail.columns ++
      Json.optionalMember "referencedTable" encode e.detail.referencedTable ++
      Json.optionalMember "current" encode e.detail.current ++
      Json.optionalMember "requested" encode e.detail.requested
  decode? value := do
    let field ← value.objectFields? ["kind", "action", "table", "line", "status", "message",
      "existsBefore", "column", "type", "from", "to", "toExists", "name", "columns",
      "referencedTable", "current", "requested"]
    let detail : DiffDetail := {
      column := ← (field "column").orElse none
      columnType := ← (field "type").orElse none
      source := ← (field "from").orElse none
      target := ← (field "to").orElse none
      targetExists := ← (field "toExists").orElse none
      name := ← (field "name").orElse none
      columns := ← (field "columns").orElse []
      referencedTable := ← (field "referencedTable").orElse none
      current := ← (field "current").orElse none
      requested := ← (field "requested").orElse none }
    return {
      kind := ← (field "kind").required
      action := ← (field "action").required
      table := ← (field "table").required
      line := ← (field "line").required
      status := ← (field "status").required
      message := ← (field "message").required
      existsBefore := ← (field "existsBefore").required
      detail := detail }

/-! ### The comparison -/

/-- What the comparison of an operation with its table finds out. -/
structure Finding where
  existsBefore : Bool
  targetExists : Option Bool := none
  message : String
  detail : DiffDetail := {}
  deriving DecidableEq

namespace Operation

/-- An operation on a table as a whole. -/
def tableFinding (op : Operation) (table : Option Table) : Finding where
  existsBefore := table.isSome
  message :=
    match op.action, table.isSome with
    | .create, true => s!"Table '{op.table}' already exists"
    | .create, false => s!"Will create new table '{op.table}'"
    | .modify, true => s!"Will modify existing table '{op.table}'"
    | .drop, true => s!"Will DROP table '{op.table}' (DESTRUCTIVE)"
    | _, false => s!"Table '{op.table}' does not exist"
    | _, true => s!"Table '{op.table}' is referenced"

/-- A column that is renamed. -/
def renameFinding (op : Operation) (table : Option Table) : Finding :=
  let source := op.details.source.getD ""
  let target := op.details.target.getD ""
  let sourceExists := table.any (·.hasColumn source)
  let targetExists := table.any (·.hasColumn target)
  { existsBefore := sourceExists
    targetExists := some targetExists
    message :=
      match sourceExists, targetExists with
      | true, false => s!"Will RENAME column '{op.table}.{source}' to '{target}' (DESTRUCTIVE)"
      | true, true => s!"Column '{op.table}.{target}' already exists"
      | false, _ => s!"Column '{op.table}.{source}' does not exist"
    detail := { source := some source, target := some target, targetExists := some targetExists } }

/-- A column that is added, changed or dropped. -/
def columnFinding (op : Operation) (table : Option Table) : Finding :=
  let column := op.details.column.getD ""
  let current := table.bind (·.column? column)
  { existsBefore := current.isSome
    message :=
      match op.action, current.isSome with
      | .add, true => s!"Column '{op.table}.{column}' already exists"
      | .add, false => s!"Will add new column '{op.table}.{column}'"
      | .modify, true => s!"Will modify column '{op.table}.{column}'"
      | .drop, true => s!"Will DROP column '{op.table}.{column}' (DESTRUCTIVE)"
      | _, _ => s!"Column '{op.table}.{column}' does not exist"
    detail :=
      { column := some column
        columnType := op.details.columnType
        current := current.map Column.dataType } }

/-- The index over the columns of an operation, unless the operation gives no columns. -/
def indexOnColumns? (op : Operation) (table : Table) : Option Index :=
  if op.details.columns.isEmpty then none else table.indexOn? op.details.columns

/-- The index that an operation is about. An index that is added under a name is found by that name
alone; any other index is found by its name or else by its columns. -/
def index? (op : Operation) (table : Table) : Option Index :=
  match op.details.name with
  | some name =>
    if op.action = .add then table.indexNamed? name
    else table.indexNamed? name <|> op.indexOnColumns? table
  | none => op.indexOnColumns? table

/-- An index that is added or dropped. -/
def indexFinding (op : Operation) (table : Option Table) : Finding :=
  let known := table.bind op.index?
  let label := (op.details.name <|> known.map Index.name).getD (", ".intercalate op.details.columns)
  { existsBefore := known.isSome
    message :=
      match op.action, known.isSome with
      | .add, true => s!"Index '{label}' on '{op.table}' already exists"
      | .add, false => s!"Will add new index '{label}' on '{op.table}'"
      | .drop, true => s!"Will DROP index '{label}' on '{op.table}' (DESTRUCTIVE)"
      | _, _ => s!"Index '{label}' on '{op.table}' does not exist"
    detail :=
      { name := op.details.name
        columns := op.details.columns
        columnType := op.details.indexType.map IndexType.name } }

/-- A foreign key that is added. -/
def newKeyFinding (op : Operation) (table : Option Table) : Finding :=
  let referenced := op.details.referencedTable.getD ""
  let known := (table.bind (·.foreignKeyTo? referenced op.details.columns)).isSome
  { existsBefore := known
    message :=
      if known then s!"Foreign key on '{op.table}' already exists"
      else s!"Will add new foreign key on '{op.table}'"
    detail := { columns := op.details.columns, referencedTable := some referenced } }

/-- The foreign key that an operation is about, found by its name or else by its columns. -/
def foreignKey? (op : Operation) (table : Table) : Option ForeignKey :=
  op.details.name.bind table.foreignKeyNamed? <|>
    if op.details.columns.isEmpty then none else table.foreignKeyOn? op.details.columns

/-- A foreign key that is dropped. -/
def keyFinding (op : Operation) (table : Option Table) : Finding :=
  let known := table.bind op.foreignKey?
  let label := op.details.name.getD (", ".intercalate op.details.columns)
  { existsBefore := known.isSome
    message :=
      if known.isSome then s!"Will DROP foreign key '{label}' on '{op.table}' (DESTRUCTIVE)"
      else s!"Foreign key '{label}' on '{op.table}' does not exist"
    detail :=
      { name := op.details.name
        columns := op.details.columns
        referencedTable := known.map ForeignKey.referencedTable } }

/-- The name of a setting at the beginning of a message. -/
def settingTitle : ObjectKind → String
  | .engine => "Engine"
  | .charset => "Charset"
  | _ => "Collation"

/-- The current value of the setting that an operation is about. -/
def currentSetting (op : Operation) (table : Table) : Option String :=
  match op.kind with
  | .engine => table.engine
  | .charset => table.charset
  | _ => table.collation

/-- A setting that is changed. It counts as existing if it has the value already. -/
def settingFinding (op : Operation) (table : Option Table) : Finding :=
  let current := table.bind op.currentSetting
  let requested := op.details.value
  let currentText := current.getD "unset"
  let requestedText := requested.getD ""
  { existsBefore := current = requested
    message :=
      if current = requested then
        s!"{settingTitle op.kind} for '{op.table}' is already '{requestedText}'"
      else
        s!"Will change {op.kind.name} for '{op.table}' from '{currentText}' to '{requestedText}'"
    detail := { current := current, requested := requested } }

/-- What the comparison of an operation with the table of its name finds out. -/
def finding (op : Operation) (table : Option Table) : Finding :=
  match op.kind with
  | .table => op.tableFinding table
  | .column => if op.action = .rename then op.renameFinding table else op.columnFinding table
  | .index => op.indexFinding table
  | .foreignKey => if op.action = .add then op.newKeyFinding table else op.keyFinding table
  | .engine | .charset | .collation => op.settingFinding table

end Operation

/-- The entry of an operation, given the table that the schema has under its name. -/
def DiffEntry.of (op : Operation) (table : Option Table) : DiffEntry :=
  let finding := op.finding table
  { kind := op.kind
    action := op.action
    table := op.table
    line := op.line
    status := .of op.kind op.action finding.existsBefore finding.targetExists
    message := finding.message
    existsBefore := finding.existsBefore
    detail := finding.detail }

end MigrationPreview
