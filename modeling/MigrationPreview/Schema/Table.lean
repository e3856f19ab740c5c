import MigrationPreview.Json.Form

/-!
# Tables

The structure of a table as far as a migration can touch it: its columns, indexes and foreign keys,
and its storage settings. An index or a foreign key is found by its name or by the set of its
columns, in which order and repetition do not count.

## Main definitions

* `Column`, `Index`, `ForeignKey`, `Table`: what a table consists of
* `Table.indexOn?`, `Table.foreignKeyOn?`, `Table.foreignKeyTo?`: look-up by the set of columns
-/

namespace MigrationPreview

/-! ### Parts of a table -/

/-- A column. -/
structure Column where
  name : String
  dataType : String
  nullable : Bool := false
  defaultValue : Option String := none
  ordinalPosition : Int32 := 0
  deriving DecidableEq, Inhabited

instance : JsonForm Column where
  encode c := .object <|
    [("name", encode c.name), ("dataType", encode c.dataType), ("nullable", encode c.nullable)] ++
      Json.optionalMember "defaultValue" encode c.defaultValue ++
      [("ordinalPosition", encode c.ordinalPosition)]
  decode? value := do
    let field ← value.fields? ["name", "dataType", "nullable", "defaultValue", "ordinalPosition"]
    return {
      name := ← (field "name").required
      dataType := ← (field "dataType").required
      nullable := ← (field "nullable").orElse false
      defaultValue := ← (field "defaultValue").orElse none
      ordinalPosition := ← (field "ordinalPosition").orElse 0 }

/-- An index. -/
structure Index where
  name : String
  columns : List String
  isUnique : Bool := false
  isPrimary : Bool := false
  deriving DecidableEq, Inhabited

instance : JsonForm Index where
  encode i := .object [
    ("name", encode i.name),
    ("columns", encode i.columns),
    ("isUnique", encode i.isUnique),
    ("isPrimary", encode i.isPrimary)]
  decode? value := do
    let field ← value.fields? ["name", "columns", "isUnique", "isPrimary"]
    return {
      name := ← (field "name").required
      columns := ← (field "columns").required
      isUnique := ← (field "isUnique").orElse false
      isPrimary := ← (field "isPrimary").orElse false }

/-- A foreign key, which belongs to the table that refers to another one. -/
structure ForeignKey where
  name : String
  columns : List String
  referencedTable : String
  referencedColumns : List String := []
  onUpdate : Option String := none
  onDelete : Option String := none
  deriving DecidableEq, Inhabited

instance : JsonForm ForeignKey where
  encode k := .object <|
    [("constraintName", encode k.name),
      ("columns", encode k.columns),
      ("referencedTable", encode k.referencedTable),
      ("referencedColumns", encode k.referencedColumns)] ++
      Json.optionalMember "onUpdate" encode k.onUpdate ++
      Json.optionalMember "onDelete" encode k.onDelete
  decode? value := do
    let field ← value.fields?
      ["constraintName", "columns", "referencedTable", "referencedColumns", "onUpdate", "onDelete"]
    return {
      name := ← (field "constraintName").required
      columns := ← (field "columns").required
      referencedTable := ← (field "referencedTable").required
      referencedColumns := ← (field "referencedColumns").orElse []
      onUpdate := ← (field "onUpdate").orElse none
      onDelete := ← (field "onDelete").orElse none }

/-! ### Tables -/

/-- A table. Its columns are listed in their ordinal order. -/
structure Table where
  name : String
  columns : List Column := []
  indexes : List Index := []
  foreignKeys : List ForeignKey := []
  engine : Option String := none
  charset : Option String := none
  collation : Option String := none
  deriving DecidableEq, Inhabited

instance : JsonForm Table where
  encode t := .object <|
    [("name", encode t.name),
      ("columns", encode t.columns),
      ("indexes", encode t.indexes),
      ("foreignKeys", encode t.foreignKeys)] ++
      Json.optionalMember "engine" encode t.engine ++
      Json.optionalMember "charset" encode t.charset ++
      Json.optionalMember "collation" encode t.collation
  decode? value := do
    let field ← value.fields?
      ["name", "columns", "indexes", "foreignKeys", "engine", "charset", "collation"]
    return {
      name := ← (field "name").required
      columns := ← (field "columns").orElse []
      indexes := ← (field "indexes").orElse []
      foreignKeys := ← (field "foreignKeys").orElse []
      engine := ← (field "engine").orElse none
      charset := ← (field "charset").orElse none
      collation := ← (field "collation").orElse none }

/-- Whether two lists name the same columns, whatever their order and repetitions. -/
def sameColumns (a b : List String) : Bool :=
  a.all (b.contains ·) && b.all (a.contains ·)

theorem sameColumns_iff {a b : List String} : sameColumns a b ↔ ∀ c, c ∈ a ↔ c ∈ b := by
  simp only [sameColumns, Bool.and_eq_true, List.all_eq_true, List.contains_iff_mem]
  exact ⟨fun h c => ⟨h.1 c, h.2 c⟩, fun h => ⟨fun c => (h c).1, fun c => (h c).2⟩⟩

namespace Table

/-- The column with a given name. -/
def column? (t : Table) (name : String) : Option Column := t.columns.find? (·.name = name)

/-- Whether a table has a column with a given name. -/
def hasColumn (t : Table) (name : String) : Bool := t.columns.any (·.name = name)

/-- The index with a given name. -/
def indexNamed? (t : Table) (name : String) : Option Index := t.indexes.find? (·.name = name)

/-- The first index over exactly the given columns. -/
def indexOn? (t : Table) (columns : List String) : Option Index :=
  t.indexes.find? fun index => sameColumns index.columns columns

/-- The foreign key with a given name. -/
def foreignKeyNamed? (t : Table) (name : String) : Option ForeignKey :=
  t.foreignKeys.find? (·.name = name)

/-- The first foreign key over exactly the given columns, whatever it refers to. -/
def foreignKeyOn? (t : Table) (columns : List String) : Option ForeignKey :=
  t.foreignKeys.find? fun key => sameColumns key.columns columns

/-- The first foreign key from exactly the given columns to a given table. -/
def foreignKeyTo? (t : Table) (referencedTable : String) (columns : List String) :
    Option ForeignKey :=
  t.foreignKeys.find? fun key =>
    key.referencedTable = referencedTable && sameColumns key.columns columns

end Table

end MigrationPreview
