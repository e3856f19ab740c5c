import MigrationPreview.Json.Form

/-!
# Operations of a migration

An operation is one change to the schema that a migration asks for. Operations are produced by
reading a migration and may also be read from a file, where a kind can come with any action and any
choice of details.

## Main definitions

* `ObjectKind`, `Action`, `Direction`, `IndexType`: what an operation is about
* `Details`: the table and whatever else a call names
* `Operation`: operations, and `Operation.Summary`, their short form
-/

namespace MigrationPreview

/-! ### What an operation is about -/

/-- The kind of object that an operation touches. -/
inductive ObjectKind where
  | table
  | column
  | index
  | foreignKey
  | engine
  | charset
  | collation
  deriving DecidableEq, Inhabited

instance : Enumerated ObjectKind where
  all := [.table, .column, .index, .foreignKey, .engine, .charset, .collation]
  name
    | .table => "table"
    | .column => "column"
    | .index => "index"
    | .foreignKey => "foreign_key"
    | .engine => "engine"
    | .charset => "charset"
    | .collation => "collation"

namespace ObjectKind

/-- The name of a kind. -/
abbrev name (k : ObjectKind) : String := Enumerated.name k

/-- All kinds, in the order in which reports list them. -/
abbrev all : List ObjectKind := Enumerated.all

instance : Ord ObjectKind := ⟨compareOn ObjectKind.ctorIdx⟩

instance : Std.TransOrd ObjectKind :=
  inferInstanceAs (Std.TransCmp (compareOn ObjectKind.ctorIdx))

end ObjectKind

/-- What an operation does to its object. -/
inductive Action where
  | create
  | modify
  | drop
  | add
  | rename
  | change
  deriving DecidableEq, Inhabited

instance : Enumerated Action where
  all := [.create, .modify, .drop, .add, .rename, .change]
  name
    | .create => "create"
    | .modify => "modify"
    | .drop => "drop"
    | .add => "add"
    | .rename => "rename"
    | .change => "change"

/-- The name of an action. -/
abbrev Action.name (a : Action) : String := Enumerated.name a

/-- The method of a migration that an operation stands in: `up` applies the migration, `down` takes
it back. -/
inductive Direction where
  | up
  | down
  deriving DecidableEq, Inhabited

instance : Enumerated Direction where
  all := [.up, .down]
  name
    | .up => "up"
    | .down => "down"

/-- The name of a direction, which is also the name of its method. -/
abbrev Direction.name (d : Direction) : String := Enumerated.name d

/-- The kinds of index that a migration can declare. -/
inductive IndexType where
  | index
  | unique
  | primary
  deriving DecidableEq, Inhabited

instance : Enumerated IndexType where
  all := [.index, .unique, .primary]
  name
    | .index => "index"
    | .unique => "unique"
    | .primary => "primary"

namespace IndexType

/-- The name of an index type. -/
abbrev name (t : IndexType) : String := Enumerated.name t

/-- The index type that a method declares, if it declares one. -/
def ofCall? (method : String) : Option IndexType := Enumerated.ofName? method

end IndexType

/-! ### Details -/

/-- The names that a call gives. What a field means depends on the kind and the action; fields that
a call does not give are absent. -/
structure Details where
  table : String
  column : Option String := none
  /-- The method that declares the type of a column, such as `string`. -/
  columnType : Option String := none
  /-- The line that declares or changes a column. -/
  definition : Option String := none
  /-- The old name of a renamed column. -/
  source : Option String := none
  /-- The new name of a renamed column. -/
  target : Option String := none
  columns : List String := []
  /-- The name of an index or of a constraint. -/
  name : Option String := none
  indexType : Option IndexType := none
  referencedTable : Option String := none
  referencedColumn : Option String := none
  onUpdate : Option String := none
  onDelete : Option String := none
  /-- The engine, character set or collation that is asked for. -/
  value : Option String := none
  deriving DecidableEq, Inhabited

instance : JsonForm Details where
  encode d := .object <|
    ("table", encode d.table) ::
      (Json.optionalMember "column" encode d.column ++
      Json.optionalMember "type" encode d.columnType ++
      Json.optionalMember "definition" encode d.definition ++
      Json.optionalMember "from" encode d.source ++
      Json.optionalMember "to" encode d.target ++
      Json.nonemptyMember "columns" encode d.columns ++
      Json.optionalMember "name" encode d.name ++
      Json.optionalMember "indexType" encode d.indexType ++
      Json.optionalMember "referencedTable" encode d.referencedTable ++
      Json.optionalMember "referencedColumn" encode d.referencedColumn ++
      Json.optionalMember "onUpdate" encode d.onUpdate ++
      Json.optionalMember "onDelete" encode d.onDelete ++
      Json.optionalMember "value" encode d.value)
  decode? value := do
    let field ← value.fields? ["table", "column", "type", "definition", "from", "to", "columns",
      "name", "indexType", "referencedTable", "referencedColumn", "onUpdate", "onDelete", "value"]
    return {
      table := ← (field "table").required
      column := ← (field "column").optional
      columnType := ← (field "type").optional
      definition := ← (field "definition").optional
      source := ← (field "from").optional
      target := ← (field "to").optional
      columns := ← (field "columns").orElse []
      name := ← (field "name").optional
      indexType := ← (field "indexType").optional
      referencedTable := ← (field "referencedTable").optional
      referencedColumn := ← (field "referencedColumn").optional
      onUpdate := ← (field "onUpdate").optional
      onDelete := ← (field "onDelete").optional
      value := ← (field "value").optional }

/-! ### Operations -/

/-- One change to the schema. -/
structure Operation where
  kind : ObjectKind
  action : Action
  direction : Direction
  details : Details
  /-- The line of the migration that asks for the change, counted from one. -/
  line : Nat
  deriving DecidableEq, Inhabited

instance : JsonForm Operation where
  encode op := .object [
    ("kind", encode op.kind),
    ("action", encode op.action),
    ("direction", encode op.direction),
    ("data", encode op.details),
    ("sourceLine", encode op.line)]
  decode? value := do
    let field ← value.fields? ["kind", "action", "direction", "data", "sourceLine"]
    return {
      kind := ← (field "kind").required
      action := ← (field "action").required
      direction := ← (field "direction").required
      details := ← (field "data").required
      line := ← (field "sourceLine").required }

namespace Operation

/-- The table of an operation. -/
abbrev table (op : Operation) : String := op.details.table

/-- Whether an operation has the given kind and action. -/
def is (op : Operation) (kind : ObjectKind) (action : Action) : Bool :=
  op.kind = kind && op.action = action

/-- The short form of an operation. -/
structure Summary where
  kind : ObjectKind
  action : Action
  direction : Direction
  table : String
  deriving DecidableEq, Inhabited

instance : JsonForm Summary where
  encode s := .object [
    ("kind", encode s.kind),
    ("action", encode s.action),
    ("direction", encode s.direction),
    ("table", encode s.table)]
  decode? value := do
    let field ← value.fields? ["kind", "action", "direction", "table"]
    return {
      kind := ← (field "kind").required
      action := ← (field "action").required
      direction := ← (field "direction").required
      table := ← (field "table").required }

/-- The short form of an operation. -/
def summary (op : Operation) : Summary := ⟨op.kind, op.action, op.direction, op.table⟩

end Operation

/-- The operations of a list that stand in one direction, in their order. -/
def operationsFor (direction : Direction) (ops : List Operation) : List Operation :=
  ops.filter fun op => op.direction = direction

end MigrationPreview
