import MigrationPreview.Proofs.Canonical.Line

/-!
# What a canonical statement asks for

On the line of a canonical statement exactly the shape that the statement is meant for finds a call,
and it reads back what the statement denotes. The other shapes look for methods that the chain does not
call.

## Main results

* `Canonical.draftsIn_line`: a statement in the block of a table asks for what it denotes
-/

namespace MigrationPreview.Canonical

open Text

/-- The line of a statement, with the table and the lines behind it. -/
def BlockStatement.line (statement : BlockStatement) (table : String) (rest : List (List Char)) :
    Line :=
  ⟨statement.render, some table, (BlockStatement.indentation ++ statement.render) :: rest⟩

/-! ### Methods -/

/-- The methods that a line is searched for and that declare no type. -/
def otherMethods : List String :=
  ["change", "modify", "dropColumn", "renameColumn", "index", "unique", "primary", "dropIndex",
    "foreign", "foreignId", "dropForeign", "engine", "charset", "collation"]

theorem notMem_columnTypes : ∀ method ∈ otherMethods, method ∉ columnTypes := by
  decide +kernel

theorem ColumnType.method_ne (type : ColumnType) : ∀ method ∈ otherMethods, type.method ≠ method := by
  rintro _ h rfl
  exact notMem_columnTypes _ h type.mem

/-! ### Arguments that are put together -/

/-- What is dropped is named as it says or after its columns. -/
theorem dropDetails?_argument (table : Name) {ending : String}
    (hending : ending.toList.all isNameChar) (target : Operand) :
    dropDetails? table.text ending target.argument = some (dropped table.text ending target) := by
  cases target with
  | one name => rfl
  | list names =>
    rw [dropped, ← conventionalName_eq table names.toList hending]
    rfl

theorem twoQuoted?_quoted (source target : Name) (rest : List Char) :
    Call.twoQuoted? (source.quoted ++ (separator ++ (target.quoted ++ rest))) =
      some (source.text, target.text) := by
  have hnext := readNext_quoted target rest
  rw [List.append_assoc] at hnext
  simp [Call.twoQuoted?, source.readQuoted_quoted, hnext]

theorem oneOrTwoQuoted?_quoted (name : Name) (rest : List Char) :
    Call.oneOrTwoQuoted? (name.quoted ++ ')' :: rest) = some (name.text, none) := by
  rw [Call.oneOrTwoQuoted?, name.readQuoted_quoted]
  rfl

/-- The columns of an index and its name, if there is one. -/
theorem argumentAndName_render (columns : Operand) (name : Option Name) (rest : List Char) :
    Call.argumentAndName
        ((name.elim (.one columns) (.two columns) : Arguments).render ++ ')' :: rest) =
      (some columns.argument, name.map Name.text) := by
  rw [Call.argumentAndName]
  cases name with
  | none =>
    rw [Option.elim_none, Arguments.render, readArgument_render]
    rfl
  | some name =>
    have hnext := readNext_quoted name (')' :: rest)
    rw [Option.elim_some, Arguments.render, List.append_assoc, List.append_assoc,
      readArgument_render, ← List.append_assoc]
    simp only [Option.map_some, hnext]

/-! ### Statements on one line -/

theorem semicolon_mem_render (statement : BlockStatement) : ';' ∈ statement.render := by
  simp [BlockStatement.render, chainText]

/-- A line with a semicolon is the whole statement that begins on it. -/
theorem statementLines_cons {line : List Char} (h : ';' ∈ line) (lines : List (List Char)) :
    statementLines (line :: lines) = [line] := by
  simp [statementLines, statementLimit, h]

/-- A statement holds the text of each of its calls. -/
theorem isInfix_render_of_mem_chain {statement : BlockStatement} {link : Link}
    (h : link ∈ statement.chain) : link.render <:+: statement.render := by
  obtain ⟨before, behind, hchain⟩ := List.append_of_mem h
  refine ⟨BlockStatement.receiver ++ before.flatMap Link.render,
    behind.flatMap Link.render ++ [';'], ?_⟩
  rw [BlockStatement.render, chainText, hchain, List.flatMap_append, List.flatMap_cons]
  simp only [List.append_assoc]

theorem isInfix_render_references {link : Link} (h : link.method = "references") :
    "references(".toList <:+: link.render := by
  refine ⟨"->".toList, link.arguments.render ++ [')'], ?_⟩
  rw [Link.render, h, show "references(".toList = "references".toList ++ ['('] from rfl]
  simp only [List.append_assoc, List.cons_append, List.nil_append]

/-- A foreign key on one line is completed by its own chain. -/
theorem referencesChain?_cons {statement : BlockStatement} {link : Link}
    (h : link ∈ statement.chain) (hmethod : link.method = "references") (front : List Char)
    (rest : List (List Char)) :
    referencesChain? ((front ++ statement.render) :: rest) = some (front ++ statement.render) := by
  have hsemicolon := List.mem_append_right front (semicolon_mem_render statement)
  have hreferences : Text.contains "references(".toList (front ++ statement.render) = true :=
    contains_of_isInfix (((isInfix_render_references hmethod).trans
      (isInfix_render_of_mem_chain h)).trans (List.suffix_append front _).isInfix)
  rw [referencesChain?, statementLines_cons hsemicolon,
    List.dropWhile_cons_of_neg (by rw [hreferences]; decide)]
  exact congrArg some List.intercalate_singleton

/-! ### Foreign keys -/

theorem method_of_mem_rules {onUpdate onDelete : Option Name} {deleteFirst : Bool} {link : Link}
    (h : link ∈ rules onUpdate onDelete deleteFirst) :
    link.method = "onUpdate" ∨ link.method = "onDelete" := by
  cases deleteFirst <;> cases onUpdate <;> cases onDelete <;> simp [rules] at h <;>
    rcases h with rfl | rfl <;> simp

/-- The rules of a foreign key are only found by a search for rules. -/
theorem searchChain_rules {α : Type} {methods : List String} (hupdate : "onUpdate" ∉ methods)
    (hdelete : "onDelete" ∉ methods) (readArguments : List Char → Option α)
    (onUpdate onDelete : Option Name) (deleteFirst : Bool) :
    searchChain methods readArguments (rules onUpdate onDelete deleteFirst) = none := by
  refine searchChain_eq_none fun link hlink => ?_
  rcases method_of_mem_rules hlink with hmethod | hmethod
  · rw [hmethod]
    exact hupdate
  · rw [hmethod]
    exact hdelete

theorem searchChain_onUpdate (onUpdate onDelete : Option Name) (deleteFirst : Bool) :
    searchChain ["onUpdate"] Call.quoted? (rules onUpdate onDelete deleteFirst) =
      onUpdate.map fun name => ("onUpdate", name.text) := by
  cases deleteFirst <;> cases onUpdate <;> cases onDelete <;>
    simp [rules, searchChain, quoted?_quoted]

theorem searchChain_onDelete (onUpdate onDelete : Option Name) (deleteFirst : Bool) :
    searchChain ["onDelete"] Call.quoted? (rules onUpdate onDelete deleteFirst) =
      onDelete.map fun name => ("onDelete", name.text) := by
  cases deleteFirst <;> cases onUpdate <;> cases onDelete <;>
    simp [rules, searchChain, quoted?_quoted]

/-- The chain of a foreign key gives its details, in either order of the rules. -/
theorem foreignKeyDetails?_render (table key referenced referencedTable : Name)
    (onUpdate onDelete : Option Name) (deleteFirst : Bool) {front : List Char}
    (hfront : '-' ∉ front) :
    foreignKeyDetails? table.text [key.text] (front ++ (BlockStatement.foreign key referenced
        referencedTable onUpdate onDelete deleteFirst).render) =
      some {
        table := table.text
        columns := [key.text]
        referencedTable := some referencedTable.text
        referencedColumn := some referenced.text
        onUpdate := onUpdate.map Name.text
        onDelete := onDelete.map Name.text } := by
  unfold foreignKeyDetails?
  simp only [find?_append_render _ _ hfront, BlockStatement.chain]
  simp [searchChain, oneOrTwoQuoted?_quoted, quoted?_quoted, searchChain_onUpdate,
    searchChain_onDelete, Function.comp_def]

/-! ### The statements of a block -/

section

variable (table : Name) (rest : List (List Char))

attribute [local simp] BlockStatement.line Line.draftsIn columnModify? columnAdd? columnDrops
  columnRename? indexAdd? indexDrop? foreignKeyAdd? foreignKeyDrop? settingChange? ObjectKind.name
  Enumerated.name BlockStatement.chain BlockStatement.denote find?_render firstName?_render
  searchChain searchName quoted?_quoted argument?_render ColumnType.link

theorem draftsIn_column (type : ColumnType) (name : Name) :
    ((BlockStatement.column type name).line table.text rest).draftsIn table.text =
      (BlockStatement.column type name).denote table.text := by
  have hother := type.method_ne
  simp only [otherMethods, List.forall_mem_cons] at hother
  simp [hother, type.mem]

theorem draftsIn_change (type : ColumnType) (name : Name) :
    ((BlockStatement.change type name).line table.text rest).draftsIn table.text =
      (BlockStatement.change type name).denote table.text := by
  have hother := type.method_ne
  simp only [otherMethods, List.forall_mem_cons] at hother
  simp [hother]

theorem draftsIn_dropColumn (columns : Operand) :
    ((BlockStatement.dropColumn columns).line table.text rest).draftsIn table.text =
      (BlockStatement.dropColumn columns).denote table.text := by
  have htype := notMem_columnTypes "dropColumn" (by decide)
  simp [htype]

theorem draftsIn_renameColumn (source target : Name) :
    ((BlockStatement.renameColumn source target).line table.text rest).draftsIn table.text =
      (BlockStatement.renameColumn source target).denote table.text := by
  have htype := notMem_columnTypes "renameColumn" (by decide)
  simp [htype, twoQuoted?_quoted]

theorem draftsIn_index (type : IndexType) (columns : Operand) (name : Option Name) :
    ((BlockStatement.index type columns name).line table.text rest).draftsIn table.text =
      (BlockStatement.index type columns name).denote table.text := by
  have hcolumns : columns.names ≠ [] := by
    cases columns <;> simp [Operand.names, Names.toList]
  have htype : type.name ∉ columnTypes := notMem_columnTypes _ (by cases type <;> decide)
  have hkind : IndexType.ofCall? type.name = some type := by
    cases type <;> rfl
  have hother : ∀ method ∈ ["change", "modify", "dropColumn", "renameColumn", "dropIndex",
      "foreign", "foreignId", "dropForeign", "engine", "charset", "collation"],
      type.name ≠ method := by
    cases type <;> decide
  have hindex : type.name = "index" ∨ type.name = "unique" ∨ type.name = "primary" := by
    cases type <;> decide
  simp only [List.forall_mem_cons] at hother
  simp [htype, hkind, hcolumns, argumentAndName_render, hother, hindex]

theorem draftsIn_dropIndex (target : Operand) :
    ((BlockStatement.dropIndex target).line table.text rest).draftsIn table.text =
      (BlockStatement.dropIndex target).denote table.text := by
  have htype := notMem_columnTypes "dropIndex" (by decide)
  have hending : "index".toList.all isNameChar := by decide
  simp [htype, dropDetails?_argument table hending]

theorem draftsIn_dropForeign (target : Operand) :
    ((BlockStatement.dropForeign target).line table.text rest).draftsIn table.text =
      (BlockStatement.dropForeign target).denote table.text := by
  have htype := notMem_columnTypes "dropForeign" (by decide)
  have hending : "foreign".toList.all isNameChar := by decide
  simp [htype, dropDetails?_argument table hending]

theorem draftsIn_foreign (key referenced referencedTable : Name) (onUpdate onDelete : Option Name)
    (deleteFirst : Bool) :
    ((BlockStatement.foreign key referenced referencedTable onUpdate onDelete deleteFirst).line
        table.text rest).draftsIn table.text =
      (BlockStatement.foreign key referenced referencedTable onUpdate onDelete
        deleteFirst).denote table.text := by
  have hdetails := foreignKeyDetails?_render table key referenced referencedTable onUpdate onDelete
    deleteFirst (show '-' ∉ BlockStatement.indentation by decide)
  have hreferences : { method := "references", arguments := .one (.one referenced) : Link } ∈
      (BlockStatement.foreign key referenced referencedTable onUpdate onDelete deleteFirst).chain :=
    List.mem_cons_of_mem _ List.mem_cons_self
  have hchain := referencesChain?_cons hreferences rfl BlockStatement.indentation rest
  have hkey : ∀ rest, Call.argument? (key.quoted ++ ')' :: rest) = some (.name key.text) :=
    fun rest => argument?_render (.one key) (')' :: rest)
  have htype : ∀ method ∈ ["foreign", "references", "on", "onUpdate", "onDelete"],
      method ∉ columnTypes := by
    decide +kernel
  simp only [List.forall_mem_cons] at htype
  simp [htype, hkey, hchain, hdetails, searchChain_rules, Call.Argument.names]

theorem draftsIn_setting (kind : Setting) (value : Name) :
    ((BlockStatement.setting kind value).line table.text rest).draftsIn table.text =
      (BlockStatement.setting kind value).denote table.text := by
  have htype : kind.kind.name ∉ columnTypes := notMem_columnTypes _ (by cases kind <;> decide)
  cases kind <;> simp_all [Setting.kind]

/-- A statement in the block of a table asks for what it denotes. -/
theorem draftsIn_line (statement : BlockStatement) :
    (statement.line table.text rest).draftsIn table.text = statement.denote table.text := by
  cases statement with
  | column type name => exact draftsIn_column table rest type name
  | change type name => exact draftsIn_change table rest type name
  | dropColumn columns => exact draftsIn_dropColumn table rest columns
  | renameColumn source target => exact draftsIn_renameColumn table rest source target
  | index type columns name => exact draftsIn_index table rest type columns name
  | dropIndex target => exact draftsIn_dropIndex table rest target
  | dropForeign target => exact draftsIn_dropForeign table rest target
  | foreign key referenced referencedTable onUpdate onDelete deleteFirst =>
    exact draftsIn_foreign table rest key referenced referencedTable onUpdate onDelete deleteFirst
  | setting kind value => exact draftsIn_setting table rest kind value

end

end MigrationPreview.Canonical
