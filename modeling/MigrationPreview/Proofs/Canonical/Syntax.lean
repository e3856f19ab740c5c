import MigrationPreview.Migration.Script

/-!
# Canonical migrations

A canonical migration is written with one statement on a line, in the plainest spelling of each call.
Its statements are data here: they can be rendered as the source of a migration class, and they denote
operations without any source being read.

## Main definitions

* `Canonical.Name`: plain names, words of ASCII letters, digits and underscores
* `Canonical.BlockStatement`, `Canonical.Statement`: the statements in the block of a table and those
  of a method
* `Canonical.render`: the source of a class with both methods
* `Canonical.denote`: the operations that the statements of a method denote
-/

namespace MigrationPreview.Canonical

/-! ### Names -/

/-- Whether a character may stand in a plain name. -/
def isNameChar (c : Char) : Bool := c.isAlphanum || c == '_'

/-- A plain name. -/
structure Name where
  chars : List Char
  ne_nil : chars ≠ []
  all_isNameChar : chars.all isNameChar

/-- A name as a string. -/
def Name.text (name : Name) : String := String.ofList name.chars

/-- A name in quotes. -/
def Name.quoted (name : Name) : List Char := '\x27' :: name.chars ++ ['\x27']

/-- What stands between two names. -/
def separator : List Char := [',', ' ']

/-- A list of names that is not empty. -/
structure Names where
  first : Name
  others : List Name

/-- All names of a list. -/
def Names.toList (names : Names) : List Name := names.first :: names.others

/-- The argument of a call: one name, or a list of names in brackets. -/
inductive Operand where
  | one (name : Name)
  | list (names : Names)

namespace Operand

/-- The names of an argument. -/
def names : Operand → List String
  | one name => [name.text]
  | list names => names.toList.map Name.text

/-- The text of an argument. -/
def render : Operand → List Char
  | one name => name.quoted
  | list names => '[' :: separator.intercalate (names.toList.map Name.quoted) ++ [']']

end Operand

/-! ### Statements -/

/-- A method that declares the type of a column. -/
structure ColumnType where
  method : String
  mem : method ∈ columnTypes

/-- The settings of a table. -/
inductive Setting where
  | engine
  | charset
  | collation

/-- The kind of object that a setting is. -/
def Setting.kind : Setting → ObjectKind
  | engine => .engine
  | charset => .charset
  | collation => .collation

/-- The statements that stand in the block of a table. -/
inductive BlockStatement where
  | column (type : ColumnType) (column : Name)
  | change (type : ColumnType) (column : Name)
  | dropColumn (columns : Operand)
  | renameColumn (source target : Name)
  | index (type : IndexType) (columns : Operand) (name : Option Name)
  | dropIndex (target : Operand)
  | dropForeign (target : Operand)
  /-- A foreign key with its optional rules, of which either may be written first. -/
  | foreign (column referenced table : Name) (onUpdate onDelete : Option Name) (deleteFirst : Bool)
  | setting (kind : Setting) (value : Name)

/-- The statements of a method: the block of a table that is created or altered, and a table that is
dropped. -/
inductive Statement where
  | block (create : Bool) (table : Name) (statements : List BlockStatement)
  | drop (ifExists : Bool) (table : Name)

/-! ### Rendering -/

/-- The arguments of a call. -/
inductive Arguments where
  | none
  | one (operand : Operand)
  | two (operand : Operand) (name : Name)

/-- The text of the arguments of a call. -/
def Arguments.render : Arguments → List Char
  | none => []
  | one operand => operand.render
  | two operand name => operand.render ++ separator ++ name.quoted

/-- One call of a chain. Its method is a plain name. -/
structure Link where
  method : String
  arguments : Arguments
  isPlain : method ≠ "" ∧ method.toList.all isNameChar := by decide

/-- The text of one call of a chain. -/
def Link.render (link : Link) : List Char :=
  "->".toList ++ link.method.toList ++ '(' :: link.arguments.render ++ [')']

/-- The text of a chain of calls up to its semicolon. -/
def chainText (chain : List Link) : List Char := chain.flatMap Link.render ++ [';']

/-- The rules of a foreign key that are given, in the order in which they are written. -/
def rules (onUpdate onDelete : Option Name) (deleteFirst : Bool) : List Link :=
  let updates := onUpdate.toList.map fun rule =>
    { method := "onUpdate", arguments := .one (.one rule) : Link }
  let deletes := onDelete.toList.map fun rule =>
    { method := "onDelete", arguments := .one (.one rule) : Link }
  if deleteFirst then deletes ++ updates else updates ++ deletes

/-- The call that declares the type of a column. -/
def ColumnType.link (type : ColumnType) (column : Name) : Link where
  method := type.method
  arguments := .one (.one column)
  isPlain :=
    have hplain : ∀ method ∈ columnTypes, method ≠ "" ∧ method.toList.all isNameChar := by
      decide +kernel
    hplain type.method type.mem

namespace BlockStatement

/-- The calls of a statement, from left to right. -/
def chain : BlockStatement → List Link
  | column type name => [type.link name]
  | change type name => [type.link name, { method := "change", arguments := .none }]
  | dropColumn columns => [{ method := "dropColumn", arguments := .one columns }]
  | renameColumn source target =>
    [{ method := "renameColumn", arguments := .two (.one source) target }]
  | index type columns name =>
    [{ method := type.name
       arguments := name.elim (.one columns) (.two columns)
       isPlain := by cases type <;> decide }]
  | dropIndex target => [{ method := "dropIndex", arguments := .one target }]
  | dropForeign target => [{ method := "dropForeign", arguments := .one target }]
  | foreign key referenced table onUpdate onDelete deleteFirst =>
    { method := "foreign", arguments := .one (.one key) } ::
      { method := "references", arguments := .one (.one referenced) } ::
      { method := "on", arguments := .one (.one table) } :: rules onUpdate onDelete deleteFirst
  | setting kind value =>
    [{ method := kind.kind.name
       arguments := .one (.one value)
       isPlain := by cases kind <;> decide }]

/-- The variable of the table on which the statements in its block call. -/
def receiver : List Char := "$table".toList

/-- What stands in front of a statement on its line. -/
def indentation : List Char := "            ".toList

/-- The text of a statement without its indentation. -/
def render (statement : BlockStatement) : List Char := receiver ++ chainText statement.chain

end BlockStatement

namespace Statement

/-- The method of the schema that opens a block. -/
def blockMethod (create : Bool) : String := if create then "create" else "table"

/-- The method of the schema that drops a table. -/
def dropMethod (ifExists : Bool) : String := if ifExists then "dropIfExists" else "drop"

/-- The name of the schema with what stands between it and a method. -/
def schema : List Char := "Schema::".toList

/-- A call on the schema as a whole, with what stands behind the table. -/
def call (method : String) (table : Name) (ending : List Char) : List Char :=
  schema ++ (method.toList ++ '(' :: (table.quoted ++ ending))

/-- What stands in front of a statement on its line. -/
def margin : List Char := "        ".toList

/-- What ends a call on the schema. -/
def ending : List Char := ");".toList

/-- What stands between the table and its block. -/
def callback : List Char := ", function (Blueprint $table) ".toList

/-- What opens the block of a table. -/
def opening : List Char := callback ++ ['\x7b']

/-- What closes the block of a table. -/
def closing : List Char := '\x7d' :: ending

/-- The lines of a statement. -/
def lines : Statement → List (List Char)
  | block create table statements =>
    (margin ++ call (blockMethod create) table opening) ::
      (statements.map (fun statement => BlockStatement.indentation ++ statement.render) ++
        [margin ++ closing])
  | drop ifExists table => [margin ++ call (dropMethod ifExists) table ending]

end Statement

/-- What stands in front of the brace that closes a method. -/
def lastLine : List Char := "    ".toList

/-- The text between the braces of a method. -/
def bodyText (statements : List Statement) : List Char :=
  ['\n'].intercalate ([] :: statements.flatMap Statement.lines ++ [lastLine])

/-- What stands in front of the methods. -/
def header : List Char := "<?php\n\nreturn new class extends Migration\n\x7b\n    ".toList

/-- The signature of `up` with its opening brace. -/
def upSignature : List Char := "public function up(): void\n    \x7b".toList

/-- What stands between the methods. -/
def middle : List Char := "\x7d\n\n    ".toList

/-- The signature of `down` with its opening brace. -/
def downSignature : List Char := "public function down(): void\n    \x7b".toList

/-- What stands behind the methods. -/
def footer : List Char := "\x7d\n\x7d;\n".toList

/-- The source of a class with the given statements in its methods. -/
def render (up down : List Statement) : String :=
  String.ofList
    (header ++ (upSignature ++ (bodyText up ++ (middle ++ (downSignature ++
      (bodyText down ++ footer))))))

/-! ### Meaning -/

/-- The name of an object that is dropped by its columns: the table, the columns and the ending, in
lower case and joined by underscores. -/
def derivedName (table : String) (columns : List String) (ending : String) : String :=
  String.ofList (("_".intercalate (table :: columns ++ [ending])).toList.map Char.toLower)

/-- What is said about an object that is dropped by its name or by its columns. -/
def dropped (table ending : String) : Operand → Details
  | .one name => { table := table, name := some name.text }
  | .list names =>
    { table := table
      columns := names.toList.map Name.text
      name := some (derivedName table (names.toList.map Name.text) ending) }

/-- What a statement in the block of a table asks for. -/
def BlockStatement.denote (table : String) (statement : BlockStatement) : List Draft :=
  match statement with
  | column type name =>
    [⟨.column, .add,
      { table := table
        column := some name.text
        columnType := some type.method
        definition := some (String.ofList statement.render) }⟩]
  | change _ name =>
    [⟨.column, .modify,
      { table := table
        column := some name.text
        definition := some (String.ofList statement.render) }⟩]
  | dropColumn columns =>
    columns.names.map fun name => ⟨.column, .drop, { table := table, column := some name }⟩
  | renameColumn source target =>
    [⟨.column, .rename,
      { table := table, source := some source.text, target := some target.text }⟩]
  | index type columns name =>
    [⟨.index, .add,
      { table := table
        columns := columns.names
        name := name.map Name.text
        indexType := some type }⟩]
  | dropIndex target => [⟨.index, .drop, dropped table "index" target⟩]
  | dropForeign target => [⟨.foreignKey, .drop, dropped table "foreign" target⟩]
  | foreign key referenced referencedTable onUpdate onDelete _ =>
    [⟨.foreignKey, .add,
      { table := table
        columns := [key.text]
        referencedTable := some referencedTable.text
        referencedColumn := some referenced.text
        onUpdate := onUpdate.map Name.text
        onDelete := onDelete.map Name.text }⟩]
  | setting kind value => [⟨kind.kind, .change, { table := table, value := some value.text }⟩]

/-- What the statements in the block of a table ask for, one statement on each line. -/
def denoteBlock (direction : Direction) (table : String) :
    Nat → List BlockStatement → List Operation
  | _, [] => []
  | number, statement :: rest =>
    (statement.denote table).map (·.toOperation direction number) ++
      denoteBlock direction table (number + 1) rest

/-- What the statements of a method ask for; the first of them stands on line `number`. -/
def denote (direction : Direction) : Nat → List Statement → List Operation
  | _, [] => []
  | number, .block create table statements :: rest =>
    ⟨.table, if create then .create else .modify, direction, { table := table.text }, number⟩ ::
      denoteBlock direction table.text (number + 1) statements ++
      denote direction (number + statements.length + 2) rest
  | number, .drop _ table :: rest =>
    ⟨.table, .drop, direction, { table := table.text }, number⟩ ::
      denote direction (number + 1) rest

end MigrationPreview.Canonical
