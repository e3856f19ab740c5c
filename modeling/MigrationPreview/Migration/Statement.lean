import MigrationPreview.Migration.Call
import MigrationPreview.Migration.Operation
import MigrationPreview.Text.Lower

/-!
# Statements of a migration

What one line of a method body asks for. A line may hold several calls, and each shape of call is
looked for on its own, so one line can give several drafts. Two shapes give way to another one: a
line that changes a column does not add it, and a line that adds a column does not add an index.

Calls that declare a column together with its foreign key, and calls whose first argument stands on
a later line, are not recognised. Only the calls that complete a foreign key are looked for on the
following lines, up to the end of the statement.

## Main definitions

* `Draft`: an operation without direction and line number
* `Line`: a line with the table it belongs to and the lines behind it
* `Line.drafts`: what a line asks for
* `openedTable?`: the table to which a line makes the following lines belong
-/

namespace MigrationPreview

open Text

/-- An operation whose direction and line number are not attached yet. -/
structure Draft where
  kind : ObjectKind
  action : Action
  details : Details
  deriving DecidableEq

/-- The operation of a draft. -/
def Draft.toOperation (d : Draft) (direction : Direction) (line : Nat) : Operation :=
  ⟨d.kind, d.action, direction, d.details, line⟩

/-- A line of a method body, with what its calls may depend on. -/
structure Line where
  /-- The line without blanks at its ends. -/
  text : List Char
  /-- The table whose block the line stands in. -/
  table : Option String
  /-- The line itself and all lines behind it, as they are written. -/
  window : List (List Char)

/-! ### Tables -/

/-- Reads a call on the schema as a whole, with the table it names. -/
def readSchemaCall (cs : List Char) : Option (String × String) := do
  let (method, arguments) ← Call.readOpening (← expect "Schema::".toList cs)
  if method ∈ ["create", "table", "drop", "dropIfExists"] then
    return (method, ← Call.quoted? arguments)
  else none

/-- The leftmost call on the schema in a line. -/
def schemaCall? (line : List Char) : Option (String × String) := firstMatch readSchemaCall line

/-- The table whose block begins on a line. -/
def openedTable? (line : List Char) : Option String :=
  match schemaCall? line with
  | some (method, table) => if method = "create" ∨ method = "table" then some table else none
  | none => none

/-- A table that is created, altered or dropped. -/
def tableDraft? (line : List Char) : Option Draft := do
  let (method, table) ← schemaCall? line
  let action : Action :=
    if method = "create" then .create else if method = "table" then .modify else .drop
  return ⟨.table, action, { table := table }⟩

/-! ### Columns -/

/-- The methods that declare a column of a type. -/
def columnTypes : List String :=
  ["string", "integer", "bigInteger", "text", "boolean", "date", "datetime", "timestamp",
    "decimal", "float", "double", "enum", "json", "binary", "char", "tinyInteger",
    "smallInteger", "mediumInteger", "unsignedInteger", "unsignedBigInteger",
    "unsignedTinyInteger", "unsignedSmallInteger", "unsignedMediumInteger", "longText",
    "mediumText", "tinyText", "jsonb", "uuid", "ipAddress", "macAddress", "geometry", "point",
    "lineString", "polygon", "geometryCollection", "multiPoint", "multiLineString",
    "multiPolygon", "multiPolygonZ"]

/-- A column that is changed: the column is the first name on the line. -/
def columnModify? (table : String) (line : List Char) : Option Draft := do
  let _ ← Call.find? ["change", "modify"] (fun _ => some ()) line
  let column ← Call.firstName? line
  return ⟨.column, .modify,
    { table := table, column := some column, definition := some (String.ofList line) }⟩

/-- A column that is added: the column is the first name on the line. -/
def columnAdd? (table : String) (line : List Char) : Option Draft := do
  let (type, _) ← Call.find? columnTypes (fun _ => some ()) line
  let column ← Call.firstName? line
  return ⟨.column, .add,
    { table := table
      column := some column
      columnType := some type
      definition := some (String.ofList line) }⟩

/-- Columns that are dropped, one draft each. -/
def columnDrops (table : String) (line : List Char) : List Draft :=
  match Call.find? ["dropColumn"] Call.argument? line with
  | some (_, argument) => argument.names.map fun column =>
      ⟨.column, .drop, { table := table, column := some column }⟩
  | none => []

/-- A column that is renamed. -/
def columnRename? (table : String) (line : List Char) : Option Draft := do
  let (_, source, target) ← Call.find? ["renameColumn"] Call.twoQuoted? line
  return ⟨.column, .rename, { table := table, source := some source, target := some target }⟩

/-! ### Indexes and foreign keys -/

/-- An index that is added. Without columns of its own it covers the first name on the line. -/
def indexAdd? (table : String) (line : List Char) : Option Draft := do
  let (method, argument, name) ←
    Call.find? ["index", "unique", "primary"] (fun cs => some (Call.argumentAndName cs)) line
  let columns := match argument with
    | some argument => argument.names
    | none => []
  return ⟨.index, .add,
    { table := table
      columns := if columns.isEmpty then (Call.firstName? line).toList else columns
      name := name
      indexType := IndexType.ofCall? method }⟩

/-- The name that an index or a foreign key gets from its table and columns when it is not named:
all parts in lower case, joined by underscores, which replace hyphens and dots as well. -/
def conventionalName (table : String) (columns : List String) (ending : String) : String :=
  let joined := lowercase ("_".intercalate (table :: columns ++ [ending])).toList
  String.ofList (joined.map fun c => if c = '-' ∨ c = '.' then '_' else c)

/-- The details of an object that is dropped by its name or by the list of its columns. An empty
list drops nothing. -/
def dropDetails? (table ending : String) : Call.Argument → Option Details
  | .name name => some { table := table, name := some name }
  | .list [] => none
  | .list columns => some
      { table := table
        columns := columns
        name := some (conventionalName table columns ending) }

/-- An index that is dropped. -/
def indexDrop? (table : String) (line : List Char) : Option Draft := do
  let (_, argument) ← Call.find? ["dropIndex"] Call.argument? line
  return ⟨.index, .drop, ← dropDetails? table "index" argument⟩

/-- The number of lines, the first one included, in which a foreign key has to be completed. -/
def statementLimit : Nat := 10

/-- The lines of the statement that begins with the window: up to and including the first line with
a semicolon, and never more than `statementLimit`. -/
def statementLines (window : List (List Char)) : List (List Char) :=
  let lines := window.take statementLimit
  let unfinished := lines.takeWhile (!·.contains ';')
  lines.take (unfinished.length + 1)

/-- The text of a statement from the first line that holds a call of `references`, with its lines
joined by spaces. -/
def referencesChain? (window : List (List Char)) : Option (List Char) :=
  match (statementLines window).dropWhile fun line => !Text.contains "references(".toList line with
  | [] => none
  | lines => some ([' '].intercalate lines)

/-- The details that complete a foreign key, read from the text of its chain. Where `on` names the
table, `references` names the column; otherwise `references` names the table and perhaps a
column. -/
def foreignKeyDetails? (table : String) (columns : List String) (chain : List Char) :
    Option Details := do
  let (_, first, second) ← Call.find? ["references"] Call.oneOrTwoQuoted? chain
  let argumentOf := fun method => (Call.find? [method] Call.quoted? chain).map Prod.snd
  -- `references('id')->on('users')` names the column first, `references('users', 'id')` the table
  let (referencedTable, referencedColumn) := match argumentOf "on" with
    | some onTable => (onTable, some first)
    | none => (first, second)
  return {
    table := table
    columns := columns
    referencedTable := some referencedTable
    referencedColumn := referencedColumn
    onUpdate := argumentOf "onUpdate"
    onDelete := argumentOf "onDelete" }

/-- A foreign key that is added, if the statement completes it. -/
def foreignKeyAdd? (table : String) (line : List Char) (window : List (List Char)) :
    Option Draft := do
  let (_, argument) ←
    Call.find? ["foreign", "foreignId"] (fun cs => some (Call.argument? cs)) line
  let columns := match argument with
    | some argument => argument.names
    | none => []
  let chain ← referencesChain? window
  return ⟨.foreignKey, .add, ← foreignKeyDetails? table columns chain⟩

/-- A foreign key that is dropped. -/
def foreignKeyDrop? (table : String) (line : List Char) : Option Draft := do
  let (_, argument) ← Call.find? ["dropForeign"] Call.argument? line
  return ⟨.foreignKey, .drop, ← dropDetails? table "foreign" argument⟩

/-! ### Settings of a table -/

/-- A setting of the table that is changed; the method has the name of the setting. -/
def settingChange? (kind : ObjectKind) (table : String) (line : List Char) : Option Draft := do
  let (_, value) ← Call.find? [kind.name] Call.quoted? line
  return ⟨kind, .change, { table := table, value := some value }⟩

/-! ### Lines -/

namespace Line

/-- What a line asks for that belongs to `table`. -/
def draftsIn (table : String) (line : Line) : List Draft :=
  -- what gives way depends on the drafts of the other shape, not on its call alone
  let modified := (columnModify? table line.text).toList
  let added := if modified.isEmpty then (columnAdd? table line.text).toList else []
  let indexed := if added.isEmpty then (indexAdd? table line.text).toList else []
  modified ++ added ++
    columnDrops table line.text ++
    (columnRename? table line.text).toList ++
    indexed ++
    (indexDrop? table line.text).toList ++
    (foreignKeyAdd? table line.text line.window).toList ++
    (foreignKeyDrop? table line.text).toList ++
    (settingChange? .engine table line.text).toList ++
    (settingChange? .charset table line.text).toList ++
    (settingChange? .collation table line.text).toList

/-- What a line asks for. Outside the block of a table only calls on the schema count. -/
def drafts (line : Line) : List Draft :=
  (tableDraft? line.text).toList ++
    match line.table with
    | some table => line.draftsIn table
    | none => []

end Line

end MigrationPreview
