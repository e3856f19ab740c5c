import MigrationPreview.Proofs.LineNumber

/-!
# The details of an operation

Which details an operation has depends on its kind and its action. A migration asks for few of the
pairs of a kind and an action, and the call that asks for one gives exactly the details that belong to
it: a column that is dropped has a name and nothing else, a setting has a value and nothing else. What
is said about the operations of a migration is therefore proved with one case for each kind of call.

## Main definitions

* `Details.Fit`: the details that belong to a kind and an action
* `Operation.WellFormed`: an operation with the details that belong to it

## Main results

* `Line.fit_of_mem_drafts`: the drafts of a line have the details that belong to them
* `operationsFor_parse`: the operations of one direction are those of its method
* `wellFormed_of_mem_operationsIn`: the operations of a migration are well-formed
-/

namespace MigrationPreview

open Text

/-- The details that belong to a kind and an action, all other fields being absent. There is one case
for each kind of call, so that pairs without a case are pairs that no call asks for. -/
inductive Details.Fit : ObjectKind → Action → Details → Prop where
  | table {action : Action} {table : String} (known : action ∈ [.create, .modify, .drop]) :
      Fit .table action { table := table }
  | columnAdd {table column columnType definition : String} :
      Fit .column .add
        { table := table
          column := some column
          columnType := some columnType
          definition := some definition }
  | columnModify {table column definition : String} :
      Fit .column .modify
        { table := table, column := some column, definition := some definition }
  | columnDrop {table column : String} :
      Fit .column .drop { table := table, column := some column }
  | columnRename {table source target : String} :
      Fit .column .rename { table := table, source := some source, target := some target }
  | indexAdd {table : String} {columns : List String} {name : Option String}
      {indexType : IndexType} :
      Fit .index .add
        { table := table, columns := columns, name := name, indexType := some indexType }
  | indexDrop {table name : String} {columns : List String} :
      Fit .index .drop { table := table, columns := columns, name := some name }
  | foreignKeyAdd {table referencedTable : String} {columns : List String}
      {referencedColumn onUpdate onDelete : Option String} :
      Fit .foreignKey .add
        { table := table
          columns := columns
          referencedTable := some referencedTable
          referencedColumn := referencedColumn
          onUpdate := onUpdate
          onDelete := onDelete }
  | foreignKeyDrop {table name : String} {columns : List String} :
      Fit .foreignKey .drop { table := table, columns := columns, name := some name }
  | setting {kind : ObjectKind} {table value : String}
      (isSetting : kind ∈ [.engine, .charset, .collation]) :
      Fit kind .change { table := table, value := some value }

/-- An operation with the details that belong to its kind and its action. -/
def Operation.WellFormed (op : Operation) : Prop := Details.Fit op.kind op.action op.details

theorem eq_or_eq_or_eq_of_mem {α : Type} {x a b c : α} (h : x ∈ [a, b, c]) :
    x = a ∨ x = b ∨ x = c := by
  simpa using h

/-! ### Drafts -/

theorem schemaAction_mem (method : String) :
    schemaAction method ∈ [Action.create, .modify, .drop] := by
  unfold schemaAction
  split_ifs <;> simp

theorem exists_ofCall?_of_mem {method : String} (h : method ∈ ["index", "unique", "primary"]) :
    ∃ indexType, IndexType.ofCall? method = some indexType := by
  obtain rfl | rfl | rfl := eq_or_eq_or_eq_of_mem h
  · exact ⟨.index, by decide⟩
  · exact ⟨.unique, by decide⟩
  · exact ⟨.primary, by decide⟩

/-- What is dropped by its name or by a list of columns has a name and perhaps columns. -/
theorem exists_eq_of_dropDetails? {table ending : String} {argument : Call.Argument}
    {details : Details} (h : dropDetails? table ending argument = some details) :
    ∃ columns name, details = { table := table, columns := columns, name := some name } := by
  unfold dropDetails? at h
  split at h
  · exact ⟨_, _, (Option.some_inj.mp h).symm⟩
  · simp at h
  · exact ⟨_, _, (Option.some_inj.mp h).symm⟩

/-- A foreign key that is completed refers to a table. -/
theorem exists_eq_of_foreignKeyDetails? {table : String} {columns : List String}
    {chain : List Char} {details : Details}
    (h : foreignKeyDetails? table columns chain = some details) :
    ∃ referencedTable referencedColumn onUpdate onDelete, details =
      { table := table
        columns := columns
        referencedTable := some referencedTable
        referencedColumn := referencedColumn
        onUpdate := onUpdate
        onDelete := onDelete } := by
  obtain ⟨_, -, h⟩ := Option.bind_eq_some_iff.mp h
  exact ⟨_, _, _, _, (Option.some_inj.mp h).symm⟩

namespace Line

variable {line : Line} {draft : Draft}

/-- The drafts of a line have the details that belong to their kind and action. -/
theorem fit_of_mem_drafts (h : draft ∈ line.drafts) :
    Details.Fit draft.kind draft.action draft.details := by
  cases asksFor_of_mem_drafts h with
  | table => exact .table (schemaAction_mem _)
  | columnModify => exact .columnModify
  | columnAdd => exact .columnAdd
  | columnDrop => exact .columnDrop
  | columnRename => exact .columnRename
  | indexAdd _ hcall =>
    -- the method that is called is one of those that declare an index
    obtain ⟨indexType, htype⟩ := exists_ofCall?_of_mem (Call.method_mem_of_find? hcall)
    rw [htype]
    exact .indexAdd
  | indexDrop _ _ hdropped =>
    obtain ⟨columns, name, rfl⟩ := exists_eq_of_dropDetails? hdropped
    exact .indexDrop
  | foreignKeyAdd _ _ _ hreferenced =>
    obtain ⟨_, _, _, _, rfl⟩ := exists_eq_of_foreignKeyDetails? hreferenced
    exact .foreignKeyAdd
  | foreignKeyDrop _ _ hdropped =>
    obtain ⟨columns, name, rfl⟩ := exists_eq_of_dropDetails? hdropped
    exact .foreignKeyDrop
  | setting kind _ hsetting => exact .setting hsetting

end Line

/-! ### Operations of a migration -/

variable {direction : Direction} {source : List Char} {op : Operation}

theorem exists_draft_of_mem_operationsIn (h : op ∈ operationsIn direction source) :
    ∃ line draft, draft ∈ Line.drafts line ∧ op = draft.toOperation direction op.line := by
  obtain ⟨body, -, hop⟩ := mem_operations_of_mem_operationsIn h
  obtain ⟨_, _, draft, -, -, hdraft, rfl⟩ := exists_line_of_mem_operationsOfLines hop
  exact ⟨_, draft, hdraft, rfl⟩

theorem direction_of_mem_operationsIn (h : op ∈ operationsIn direction source) :
    op.direction = direction := by
  obtain ⟨_, _, -, hop⟩ := exists_draft_of_mem_operationsIn h
  rw [hop]
  rfl

/-- The operations of a migration are well-formed. -/
theorem wellFormed_of_mem_operationsIn (h : op ∈ operationsIn direction source) :
    op.WellFormed := by
  obtain ⟨_, draft, hdraft, hop⟩ := exists_draft_of_mem_operationsIn h
  rw [hop]
  exact Line.fit_of_mem_drafts hdraft

/-- The operations of one direction are those of its method. -/
theorem operationsFor_parse (direction : Direction) (source : String) :
    (Script.parse source).operationsFor direction = operationsIn direction source.toList := by
  have keep (d : Direction) :
      operationsFor direction (operationsIn d source.toList) =
        if d = direction then operationsIn d source.toList else [] := by
    split_ifs with hd
    · refine List.filter_eq_self.mpr fun op hop => ?_
      rw [direction_of_mem_operationsIn hop, hd, decide_eq_true_eq]
    · refine List.filter_eq_nil_iff.mpr fun op hop => ?_
      rw [direction_of_mem_operationsIn hop, decide_eq_true_eq]
      exact hd
  have happend : (Script.parse source).operationsFor direction =
      operationsFor direction (operationsIn .up source.toList) ++
        operationsFor direction (operationsIn .down source.toList) := List.filter_append ..
  rw [happend, keep, keep]
  cases direction <;> simp

theorem wellFormed_of_mem_operationsFor {source : String}
    (h : op ∈ (Script.parse source).operationsFor direction) : op.WellFormed := by
  rw [operationsFor_parse] at h
  exact wellFormed_of_mem_operationsIn h

end MigrationPreview
