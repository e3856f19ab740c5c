import MigrationPreview.Proofs.Call

/-!
# What a line asks for, shape by shape

`Line.drafts` puts the drafts of all shapes of call together. `Line.AsksFor` lists the shapes with the
drafts they give, so that a property of all drafts is proved with one case for each shape.

## Main results

* `Line.asksFor_of_mem_drafts`: every draft comes from one of the shapes
* `Line.definition_eq_of_mem_drafts`: a definition is the text of its line
* `Line.exists_call_of_mem_drafts`: a draft about a table stands on a line with a call that names it
-/

namespace MigrationPreview

open Text

/-- The action of a call on the schema. -/
def schemaAction (method : String) : Action :=
  if method = "create" then .create else if method = "table" then .modify else .drop

/-- The drafts of a line, each with the call it is read from. -/
inductive Line.AsksFor (line : Line) : Draft → Prop where
  | table {method table : String} (call : schemaCall? line.text = some (method, table)) :
      line.AsksFor ⟨.table, schemaAction method, { table := table }⟩
  | columnModify {table method column : String} (context : line.table = some table)
      (call : Call.find? ["change", "modify"] (fun _ => some ()) line.text = some (method, ()))
      (named : Call.firstName? line.text = some column) :
      line.AsksFor ⟨.column, .modify,
        { table := table, column := some column, definition := some (String.ofList line.text) }⟩
  | columnAdd {table type column : String} (context : line.table = some table)
      (unchanged : columnModify? table line.text = none)
      (call : Call.find? columnTypes (fun _ => some ()) line.text = some (type, ()))
      (named : Call.firstName? line.text = some column) :
      line.AsksFor ⟨.column, .add,
        { table := table
          column := some column
          columnType := some type
          definition := some (String.ofList line.text) }⟩
  | columnDrop {table method column : String} {argument : Call.Argument}
      (context : line.table = some table)
      (call : Call.find? ["dropColumn"] Call.argument? line.text = some (method, argument))
      (listed : column ∈ argument.names) :
      line.AsksFor ⟨.column, .drop, { table := table, column := some column }⟩
  | columnRename {table method source target : String} (context : line.table = some table)
      (call : Call.find? ["renameColumn"] Call.twoQuoted? line.text =
        some (method, source, target)) :
      line.AsksFor ⟨.column, .rename,
        { table := table, source := some source, target := some target }⟩
  | indexAdd {table method : String} {columns : List String} {argument : Option Call.Argument}
      {name : Option String} (context : line.table = some table)
      (call : Call.find? ["index", "unique", "primary"] (fun cs => some (Call.argumentAndName cs))
        line.text = some (method, argument, name))
      (covered : columns = if (argument.elim [] Call.Argument.names).isEmpty
        then (Call.firstName? line.text).toList else argument.elim [] Call.Argument.names) :
      line.AsksFor ⟨.index, .add,
        { table := table
          columns := columns
          name := name
          indexType := IndexType.ofCall? method }⟩
  | indexDrop {table method : String} {argument : Call.Argument} {details : Details}
      (context : line.table = some table)
      (call : Call.find? ["dropIndex"] Call.argument? line.text = some (method, argument))
      (dropped : dropDetails? table "index" argument = some details) :
      line.AsksFor ⟨.index, .drop, details⟩
  | foreignKeyAdd {table method : String} {argument : Option Call.Argument} {chain : List Char}
      {details : Details} (context : line.table = some table)
      (call : Call.find? ["foreign", "foreignId"] (fun cs => some (Call.argument? cs)) line.text =
        some (method, argument))
      (completed : referencesChain? line.window = some chain)
      (referenced : foreignKeyDetails? table (argument.elim [] Call.Argument.names) chain =
        some details) :
      line.AsksFor ⟨.foreignKey, .add, details⟩
  | foreignKeyDrop {table method : String} {argument : Call.Argument} {details : Details}
      (context : line.table = some table)
      (call : Call.find? ["dropForeign"] Call.argument? line.text = some (method, argument))
      (dropped : dropDetails? table "foreign" argument = some details) :
      line.AsksFor ⟨.foreignKey, .drop, details⟩
  | setting {table method value : String} (kind : ObjectKind) (context : line.table = some table)
      (isSetting : kind ∈ [.engine, .charset, .collation])
      (call : Call.find? [kind.name] Call.quoted? line.text = some (method, value)) :
      line.AsksFor ⟨kind, .change, { table := table, value := some value }⟩

namespace Line

variable {line : Line} {draft : Draft} {table : String}

private theorem asksFor_of_tableDraft? (h : tableDraft? line.text = some draft) :
    line.AsksFor draft := by
  obtain ⟨⟨method, table⟩, hcall, h⟩ := Option.bind_eq_some_iff.mp h
  obtain rfl := Option.some_inj.mp h
  exact .table hcall

private theorem asksFor_of_columnModify? (htable : line.table = some table)
    (h : columnModify? table line.text = some draft) : line.AsksFor draft := by
  obtain ⟨⟨method, ⟨⟩⟩, hcall, h⟩ := Option.bind_eq_some_iff.mp h
  obtain ⟨column, hcolumn, h⟩ := Option.bind_eq_some_iff.mp h
  obtain rfl := Option.some_inj.mp h
  exact .columnModify htable hcall hcolumn

private theorem asksFor_of_columnAdd? (htable : line.table = some table)
    (hmodify : columnModify? table line.text = none)
    (h : columnAdd? table line.text = some draft) : line.AsksFor draft := by
  obtain ⟨⟨type, ⟨⟩⟩, hcall, h⟩ := Option.bind_eq_some_iff.mp h
  obtain ⟨column, hcolumn, h⟩ := Option.bind_eq_some_iff.mp h
  obtain rfl := Option.some_inj.mp h
  exact .columnAdd htable hmodify hcall hcolumn

private theorem asksFor_of_columnDrops (htable : line.table = some table)
    (h : draft ∈ columnDrops table line.text) : line.AsksFor draft := by
  unfold columnDrops at h
  split at h
  · next method argument hcall =>
    obtain ⟨column, hcolumn, rfl⟩ := List.mem_map.mp h
    exact .columnDrop htable hcall hcolumn
  · simp at h

private theorem asksFor_of_columnRename? (htable : line.table = some table)
    (h : columnRename? table line.text = some draft) : line.AsksFor draft := by
  obtain ⟨⟨method, source, target⟩, hcall, h⟩ := Option.bind_eq_some_iff.mp h
  obtain rfl := Option.some_inj.mp h
  exact .columnRename htable hcall

private theorem asksFor_of_indexAdd? (htable : line.table = some table)
    (h : indexAdd? table line.text = some draft) : line.AsksFor draft := by
  obtain ⟨⟨method, argument, name⟩, hcall, h⟩ := Option.bind_eq_some_iff.mp h
  obtain rfl := Option.some_inj.mp h
  cases argument <;> exact .indexAdd htable hcall rfl

private theorem asksFor_of_indexDrop? (htable : line.table = some table)
    (h : indexDrop? table line.text = some draft) : line.AsksFor draft := by
  obtain ⟨⟨method, argument⟩, hcall, h⟩ := Option.bind_eq_some_iff.mp h
  obtain ⟨details, hdetails, h⟩ := Option.bind_eq_some_iff.mp h
  obtain rfl := Option.some_inj.mp h
  exact .indexDrop htable hcall hdetails

private theorem asksFor_of_foreignKeyAdd? (htable : line.table = some table)
    (h : foreignKeyAdd? table line.text line.window = some draft) : line.AsksFor draft := by
  obtain ⟨⟨method, argument⟩, hcall, h⟩ := Option.bind_eq_some_iff.mp h
  obtain ⟨chain, hchain, h⟩ := Option.bind_eq_some_iff.mp h
  obtain ⟨details, hdetails, h⟩ := Option.bind_eq_some_iff.mp h
  obtain rfl := Option.some_inj.mp h
  refine .foreignKeyAdd htable hcall hchain ?_
  cases argument <;> exact hdetails

private theorem asksFor_of_foreignKeyDrop? (htable : line.table = some table)
    (h : foreignKeyDrop? table line.text = some draft) : line.AsksFor draft := by
  obtain ⟨⟨method, argument⟩, hcall, h⟩ := Option.bind_eq_some_iff.mp h
  obtain ⟨details, hdetails, h⟩ := Option.bind_eq_some_iff.mp h
  obtain rfl := Option.some_inj.mp h
  exact .foreignKeyDrop htable hcall hdetails

private theorem asksFor_of_settingChange? {kind : ObjectKind} (htable : line.table = some table)
    (hkind : kind ∈ [.engine, .charset, .collation])
    (h : settingChange? kind table line.text = some draft) : line.AsksFor draft := by
  obtain ⟨⟨method, value⟩, hcall, h⟩ := Option.bind_eq_some_iff.mp h
  obtain rfl := Option.some_inj.mp h
  exact .setting kind htable hkind hcall

/-- Every draft of a line comes from one of the shapes. -/
theorem asksFor_of_mem_drafts (h : draft ∈ line.drafts) : line.AsksFor draft := by
  unfold drafts at h
  rcases List.mem_append.mp h with h | h
  · exact asksFor_of_tableDraft? (by simpa using h)
  · split at h
    · next table htable =>
      simp only [draftsIn, List.mem_append, Option.mem_toList] at h
      rcases h with (((((((((h | h) | h) | h) | h) | h) | h) | h) | h) | h) | h
      · exact asksFor_of_columnModify? htable h
      · obtain ⟨hmodify, h⟩ := List.mem_ite_nil_right.mp h
        exact asksFor_of_columnAdd? htable (by simpa using hmodify) (Option.mem_toList.mp h)
      · exact asksFor_of_columnDrops htable h
      · exact asksFor_of_columnRename? htable h
      · exact asksFor_of_indexAdd? htable (Option.mem_toList.mp (List.mem_ite_nil_right.mp h).2)
      · exact asksFor_of_indexDrop? htable h
      · exact asksFor_of_foreignKeyAdd? htable h
      · exact asksFor_of_foreignKeyDrop? htable h
      · exact asksFor_of_settingChange? htable (by simp) h
      · exact asksFor_of_settingChange? htable (by simp) h
      · exact asksFor_of_settingChange? htable (by simp) h
    · simp at h

/-! ### What drafts say about their line -/

theorem definition_of_dropDetails? {ending : String} {argument : Call.Argument} {details : Details}
    (h : dropDetails? table ending argument = some details) : details.definition = none := by
  unfold dropDetails? at h
  split at h
  · obtain rfl := Option.some_inj.mp h
    rfl
  · simp at h
  · obtain rfl := Option.some_inj.mp h
    rfl

theorem definition_of_foreignKeyDetails? {columns : List String} {chain : List Char}
    {details : Details} (h : foreignKeyDetails? table columns chain = some details) :
    details.definition = none := by
  obtain ⟨_, -, h⟩ := Option.bind_eq_some_iff.mp h
  obtain rfl := Option.some_inj.mp h
  rfl

/-- A definition is the text of its line. -/
theorem definition_eq_of_mem_drafts {definition : String} (h : draft ∈ line.drafts)
    (hdefinition : draft.details.definition = some definition) :
    definition = String.ofList line.text := by
  cases asksFor_of_mem_drafts h with
  | columnModify | columnAdd => exact (Option.some_inj.mp hdefinition).symm
  | table | columnDrop | columnRename | indexAdd | setting => simp at hdefinition
  | indexDrop _ _ hdropped | foreignKeyDrop _ _ hdropped =>
    rw [definition_of_dropDetails? hdropped] at hdefinition
    simp at hdefinition
  | foreignKeyAdd _ _ _ hreferenced =>
    rw [definition_of_foreignKeyDetails? hreferenced] at hdefinition
    simp at hdefinition

/-- A draft about a table stands on a line with a call that names the table. -/
theorem exists_call_of_mem_drafts (h : draft ∈ line.drafts) (hkind : draft.kind = .table) :
    ∃ method ∈ ["create", "table", "drop", "dropIfExists"], draft.action = schemaAction method ∧
      ∃ call, IsSchemaCall method draft.details.table call ∧ call <:+: line.text := by
  cases asksFor_of_mem_drafts h with
  | @table method table hcall =>
    obtain ⟨hmethod, call, htext, hinfix⟩ := exists_call_of_schemaCall? hcall
    exact ⟨method, hmethod, rfl, call, htext, hinfix⟩
  | setting kind _ hsetting =>
    obtain rfl : kind = .table := hkind
    simp at hsetting
  | _ => simp at hkind

end Line

end MigrationPreview
