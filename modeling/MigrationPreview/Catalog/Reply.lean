/-!
# Replies of a database server

A query is answered by a result set, in which every column has a type, or it fails. Values are read
by the name of their column. A value that is missing, is null where it must not be, or has another
type than expected cannot be decoded.

## Main definitions

* `ResultSet`, `Reply`: what a server answers
* `Row`: a row with its columns
* `Row.text?`, `Row.nullableText?`, `Row.int4?`, `Row.flag?`: values that can be decoded or not
* `Row.texts`: lists, which are empty where they cannot be decoded
-/

namespace MigrationPreview

/-- The type of a column. -/
inductive SqlType where
  | text
  | int4
  | bool
  | textArray
  deriving DecidableEq

/-- A value. -/
inductive Cell where
  | null
  | text (value : String)
  | int4 (value : Int32)
  | bool (value : Bool)
  | textArray (items : List (Option String))
  deriving DecidableEq

/-- Rows of values with the names and the types of their columns. -/
structure ResultSet where
  columns : List (String × SqlType)
  rows : List (List Cell)
  deriving DecidableEq

/-- What a server answers to a query. -/
inductive Reply where
  | result (set : ResultSet)
  /-- The query fails. -/
  | failed
  /-- The query fails because the server closes the connection. -/
  | closed
  deriving DecidableEq

/-- A row with the names and the types of its columns. -/
structure Row where
  columns : List (String × SqlType)
  cells : List Cell
  deriving DecidableEq

/-- The rows of a result set. -/
def ResultSet.toRows (set : ResultSet) : List Row := set.rows.map fun cells => ⟨set.columns, cells⟩

namespace Row

/-- The name without regard to the case of ASCII letters. -/
def foldCase (name : String) : String := String.ofList (name.toList.map Char.toLower)

/-- The place of a column: the one of that name or, if there is none, the first whose name differs
in case only. -/
def place? (r : Row) (name : String) : Option Nat :=
  r.columns.findIdx? (·.1 = name) <|> r.columns.findIdx? (foldCase ·.1 = foldCase name)

/-- The value in a column, if the column has the given type. -/
def cell? (r : Row) (type : SqlType) (name : String) : Option Cell := do
  let place ← r.place? name
  let column ← r.columns[place]?
  if column.2 = type then r.cells[place]? else none

/-- A text. -/
def text? (r : Row) (name : String) : Option String :=
  match r.cell? .text name with
  | some (.text value) => some value
  | _ => none

/-- A text that may be null. -/
def nullableText? (r : Row) (name : String) : Option (Option String) :=
  match r.cell? .text name with
  | some (.text value) => some (some value)
  | some .null => some none
  | _ => none

/-- A number. -/
def int4? (r : Row) (name : String) : Option Int32 :=
  match r.cell? .int4 name with
  | some (.int4 value) => some value
  | _ => none

/-- A truth value. -/
def flag? (r : Row) (name : String) : Option Bool :=
  match r.cell? .bool name with
  | some (.bool value) => some value
  | _ => none

/-- A list of texts, which is empty if it cannot be decoded. -/
def texts (r : Row) (name : String) : List String :=
  match r.cell? .textArray name with
  | some (.textArray items) => (items.mapM id).getD []
  | _ => []

end Row

end MigrationPreview
