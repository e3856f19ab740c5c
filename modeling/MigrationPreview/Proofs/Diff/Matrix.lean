import Mathlib.Data.Finset.Dedup
import MigrationPreview.Proofs.Details
import MigrationPreview.Proofs.Diff.Category

/-!
# The matrix of statuses

What a diff says about an operation follows from facts about one table, the one that the snapshot keeps
under the name of the operation's table. Here these facts are stated of the lists that a table holds,
without its look-ups, and the matrix says which status belongs to them. Two rows of the matrix meet
where a column that is missing gets a name that is taken; there the missing column counts.

## Main definitions

* `Table.Has`, `Snapshot.Has`: the object of an operation is there
* `Snapshot.HasTarget`: the new name of a renamed column is taken
* `StatusMatrix`: the status that follows, row by row

## Main results

* `existsBefore_entry_iff`, `targetExists_entry_iff`: an entry tells what is there
* `statusMatrix_entry`: the status of an entry stands in the matrix
* `diff_follows_matrix`: the diff of a migration follows the matrix
-/

namespace MigrationPreview

variable {op : Operation} {schema : Snapshot} {t : Table}

/-! ### What is there -/

/-- A table has an index over exactly the given columns, which are not none. -/
def Table.HasIndexOn (t : Table) (columns : List String) : Prop :=
  columns ≠ [] ∧ ∃ index ∈ t.indexes, index.columns.toFinset = columns.toFinset

/-- A table has a foreign key over exactly the given columns, which are not none. -/
def Table.HasForeignKeyOn (t : Table) (columns : List String) : Prop :=
  columns ≠ [] ∧ ∃ key ∈ t.foreignKeys, key.columns.toFinset = columns.toFinset

/-- A table has the object that an operation is about. A column is there under its name, and a renamed
one under its old name. An index that is added is there under its name if it is given one, and
otherwise if an index has the same columns. What is dropped is there under its name or, if it is dropped
by its columns, if something has the same columns. A foreign key that is added is there if one with the
same columns refers to the same table. A setting is there if it has the value already. -/
def Table.Has (t : Table) (op : Operation) : Prop :=
  match op.kind, op.action with
  | .table, _ => True
  | .column, .rename => ∃ column ∈ t.columns, some column.name = op.details.source
  | .column, _ => ∃ column ∈ t.columns, some column.name = op.details.column
  | .index, .add =>
    if op.details.name.isSome then ∃ index ∈ t.indexes, some index.name = op.details.name
    else t.HasIndexOn op.details.columns
  | .index, _ =>
    (∃ index ∈ t.indexes, some index.name = op.details.name) ∨ t.HasIndexOn op.details.columns
  | .foreignKey, .add =>
    ∃ key ∈ t.foreignKeys, some key.referencedTable = op.details.referencedTable ∧
      key.columns.toFinset = op.details.columns.toFinset
  | .foreignKey, _ =>
    (∃ key ∈ t.foreignKeys, some key.name = op.details.name) ∨
      t.HasForeignKeyOn op.details.columns
  | .engine, _ => t.engine = op.details.value
  | .charset, _ => t.charset = op.details.value
  | .collation, _ => t.collation = op.details.value

/-- The object of an operation is there, in the table that a snapshot keeps under the name of the
operation's table. -/
def Snapshot.Has (schema : Snapshot) (op : Operation) : Prop :=
  ∃ t, (op.table, t) ∈ schema.tables.entries ∧ t.Has op

/-- The new name of a column that is renamed is taken. -/
def Snapshot.HasTarget (schema : Snapshot) (op : Operation) : Prop :=
  ∃ t, (op.table, t) ∈ schema.tables.entries ∧
    ∃ column ∈ t.columns, some column.name = op.details.target

/-! ### The matrix -/

/-- The status that a kind and an action lead to, by whether the object is there and whether the new
name of a column is taken. -/
inductive StatusMatrix (there taken : Prop) : ObjectKind → Action → DiffStatus → Prop where
  | createThere (h : there) : StatusMatrix there taken .table .create .warning
  | createMissing (h : ¬ there) : StatusMatrix there taken .table .create .new
  | modifyThere {kind : ObjectKind} (of : kind ∈ [.table, .column]) (h : there) :
      StatusMatrix there taken kind .modify .info
  | modifyMissing {kind : ObjectKind} (of : kind ∈ [.table, .column]) (h : ¬ there) :
      StatusMatrix there taken kind .modify .error
  | dropThere {kind : ObjectKind} (of : kind ∈ [.table, .column, .index, .foreignKey])
      (h : there) : StatusMatrix there taken kind .drop .destructive
  | dropMissing {kind : ObjectKind} (of : kind ∈ [.table, .column, .index, .foreignKey])
      (h : ¬ there) : StatusMatrix there taken kind .drop .warning
  | addThere {kind : ObjectKind} (of : kind ∈ [.column, .index, .foreignKey]) (h : there) :
      StatusMatrix there taken kind .add .warning
  | addMissing {kind : ObjectKind} (of : kind ∈ [.column, .index, .foreignKey]) (h : ¬ there) :
      StatusMatrix there taken kind .add .new
  | renameFree (h : there) (free : ¬ taken) :
      StatusMatrix there taken .column .rename .destructive
  | renameTaken (h : taken) : StatusMatrix there taken .column .rename .warning
  | renameMissing (h : ¬ there) : StatusMatrix there taken .column .rename .error
  | settingThere {kind : ObjectKind} (of : kind ∈ [.engine, .charset, .collation]) (h : there) :
      StatusMatrix there taken kind .change .info
  | settingMissing {kind : ObjectKind} (of : kind ∈ [.engine, .charset, .collation])
      (h : ¬ there) : StatusMatrix there taken kind .change .change

/-! ### Look-ups -/

namespace Table

theorem isSome_column?_iff {name : String} :
    (t.column? name).isSome ↔ ∃ column ∈ t.columns, column.name = name := by
  simp [column?]

theorem hasColumn_iff {name : String} :
    t.hasColumn name ↔ ∃ column ∈ t.columns, column.name = name := by
  simp [hasColumn]

theorem isSome_indexNamed?_iff {name : String} :
    (t.indexNamed? name).isSome ↔ ∃ index ∈ t.indexes, index.name = name := by
  simp [indexNamed?]

theorem sameColumns_iff_toFinset_eq {a b : List String} :
    sameColumns a b ↔ a.toFinset = b.toFinset := by
  rw [sameColumns_iff, List.toFinset.ext_iff]

theorem isSome_foreignKeyTo?_iff {referencedTable : String} {columns : List String} :
    (t.foreignKeyTo? referencedTable columns).isSome ↔
      ∃ key ∈ t.foreignKeys, key.referencedTable = referencedTable ∧
        key.columns.toFinset = columns.toFinset := by
  simp [foreignKeyTo?, sameColumns_iff_toFinset_eq]

end Table

theorem Snapshot.table?_eq_some_iff {key : String} :
    schema.table? key = some t ↔ (key, t) ∈ schema.tables.entries :=
  SortedMap.get?_eq_some_iff

namespace Operation

theorem isSome_indexOnColumns?_iff :
    (op.indexOnColumns? t).isSome ↔ t.HasIndexOn op.details.columns := by
  unfold indexOnColumns? Table.HasIndexOn
  split_ifs with hempty
  · simp [List.isEmpty_iff.mp hempty]
  · simp [Table.indexOn?, Table.sameColumns_iff_toFinset_eq, mt List.isEmpty_iff.mpr hempty]

theorem isSome_index?_iff (hkind : op.kind = .index) : (op.index? t).isSome ↔ t.Has op := by
  obtain ⟨kind, action, direction, details, line⟩ := op
  obtain rfl : kind = .index := hkind
  cases hname : details.name with
  | none =>
    -- without a name the columns decide, whatever is done to the index
    cases action <;> simp [index?, Table.Has, hname, isSome_indexOnColumns?_iff]
  | some name =>
    cases action <;>
      simp [index?, Table.Has, hname, isSome_indexOnColumns?_iff, Table.isSome_indexNamed?_iff]

theorem isSome_foreignKey?_iff (hkind : op.kind = .foreignKey) (hadd : op.action ≠ .add) :
    (op.foreignKey? t).isSome ↔ t.Has op := by
  obtain ⟨kind, action, direction, details, line⟩ := op
  obtain rfl : kind = .foreignKey := hkind
  have hcolumns : (if details.columns.isEmpty then none
      else t.foreignKeyOn? details.columns).isSome ↔ t.HasForeignKeyOn details.columns := by
    unfold Table.HasForeignKeyOn
    split_ifs with hempty
    · simp [List.isEmpty_iff.mp hempty]
    · simp [Table.foreignKeyOn?, Table.sameColumns_iff_toFinset_eq, mt List.isEmpty_iff.mpr hempty]
  have hnamed : (details.name.bind t.foreignKeyNamed?).isSome ↔
      ∃ key ∈ t.foreignKeys, some key.name = details.name := by
    cases details.name <;> simp [Table.foreignKeyNamed?]
  cases action with
  | add => exact absurd rfl hadd
  | _ => simp only [foreignKey?, Table.Has, Option.orElse_eq_orElse, Option.orElse_eq_or,
      Option.isSome_or, Bool.or_eq_true, hnamed, hcolumns]

/-! ### Findings -/

theorem existsBefore_settingFinding_iff {table : Option Table} :
    (op.settingFinding table).existsBefore ↔ table.bind op.currentSetting = op.details.value :=
  decide_eq_true_iff

/-- The comparison finds the object of an operation exactly if the table has it. -/
theorem existsBefore_finding_iff (h : op.WellFormed) {table : Option Table} :
    (op.finding table).existsBefore ↔ ∃ t ∈ table, t.Has op := by
  obtain ⟨kind, action, direction, details, line⟩ := op
  cases h with
  | table known =>
    cases table <;> simp [finding, tableFinding, Table.Has]
  | columnAdd | columnModify | columnDrop =>
    cases table <;> simp [finding, columnFinding, Table.Has, Table.isSome_column?_iff]
  | columnRename =>
    cases table <;> simp [finding, renameFinding, Table.Has, Table.hasColumn_iff]
  | indexAdd | indexDrop =>
    cases table <;> simp [finding, indexFinding, isSome_index?_iff]
  | foreignKeyAdd =>
    cases table <;> simp [finding, newKeyFinding, Table.Has, Table.isSome_foreignKeyTo?_iff]
  | foreignKeyDrop =>
    cases table <;> simp [finding, keyFinding, isSome_foreignKey?_iff]
  | setting hsetting =>
    obtain rfl | rfl | rfl := eq_or_eq_or_eq_of_mem hsetting <;>
    · refine existsBefore_settingFinding_iff.trans ?_
      cases table <;> simp [currentSetting, Table.Has]

/-- For a column that is renamed, the comparison also finds whether the new name is taken. -/
theorem targetExists_finding_iff (h : op.WellFormed) (hkind : op.kind = .column)
    (haction : op.action = .rename) {table : Option Table} :
    (op.finding table).targetExists = some true ↔
      ∃ t ∈ table, ∃ column ∈ t.columns, some column.name = op.details.target := by
  obtain ⟨kind, action, direction, details, line⟩ := op
  obtain rfl : kind = .column := hkind
  obtain rfl : action = .rename := haction
  cases h with
  | columnRename => cases table <;> simp [finding, renameFinding, Table.hasColumn_iff]

/-- What is found about a new name is reported. -/
theorem targetExists_detail_finding (op : Operation) (table : Option Table) :
    (op.finding table).detail.targetExists = (op.finding table).targetExists := by
  unfold finding
  split
  case h_2 => split_ifs <;> rfl
  case h_4 => split_ifs <;> rfl
  all_goals rfl

end Operation

/-! ### Entries -/

theorem existsBefore_entry_iff (h : op.WellFormed) :
    (schema.entry op).existsBefore ↔ schema.Has op := by
  refine (Operation.existsBefore_finding_iff h).trans ?_
  simp only [Snapshot.Has, Option.mem_def, Snapshot.table?_eq_some_iff]

theorem targetExists_entry_iff (h : op.WellFormed) (hkind : op.kind = .column)
    (haction : op.action = .rename) :
    (schema.entry op).detail.targetExists = some true ↔ schema.HasTarget op := by
  refine (Eq.congr_left (Operation.targetExists_detail_finding op _)).trans ?_
  refine (Operation.targetExists_finding_iff h hkind haction).trans ?_
  simp only [Snapshot.HasTarget, Option.mem_def, Snapshot.table?_eq_some_iff]

/-- The status of an entry follows from its own fields. -/
theorem status_entry (schema : Snapshot) (op : Operation) :
    (schema.entry op).status =
      .of (schema.entry op).kind (schema.entry op).action (schema.entry op).existsBefore
        (schema.entry op).detail.targetExists := by
  have hdetail := Operation.targetExists_detail_finding op (schema.table? op.table)
  exact congrArg (DiffStatus.of op.kind op.action _) hdetail.symm

/-! ### Reading the matrix -/

namespace StatusMatrix

variable {there taken : Prop} {kind : ObjectKind} {action : Action} {status status' : DiffStatus}

/-- The rules for statuses follow the matrix for all operations that a migration asks for. -/
theorem of_fit {details : Details} (h : Details.Fit kind action details) {present : Bool}
    {target : Option Bool} (hpresent : present ↔ there)
    (htaken : kind = .column → action = .rename → (target = some true ↔ taken)) :
    StatusMatrix there taken kind action (.of kind action present target) := by
  obtain ⟨rfl, hmissing⟩ | ⟨rfl, hthere⟩ : present = false ∧ ¬ there ∨ present = true ∧ there := by
    cases present
    · exact .inl ⟨rfl, by simpa using hpresent⟩
    · exact .inr ⟨rfl, by simpa using hpresent⟩
  · -- what is missing is new, or cannot be worked on
    cases h with
    | table known =>
      obtain rfl | rfl | rfl := eq_or_eq_or_eq_of_mem known
      · exact .createMissing hmissing
      · exact .modifyMissing (by simp) hmissing
      · exact .dropMissing (by simp) hmissing
    | columnAdd | indexAdd | foreignKeyAdd => exact .addMissing (by simp) hmissing
    | columnModify => exact .modifyMissing (by simp) hmissing
    | columnDrop | indexDrop | foreignKeyDrop => exact .dropMissing (by simp) hmissing
    | columnRename => exact .renameMissing hmissing
    | setting hsetting =>
      have hrow := hsetting
      obtain rfl | rfl | rfl := eq_or_eq_or_eq_of_mem hsetting <;>
        exact .settingMissing hrow hmissing
  · -- what is there may be lost, and only here it matters whether a new name is taken
    cases h with
    | table known =>
      obtain rfl | rfl | rfl := eq_or_eq_or_eq_of_mem known
      · exact .createThere hthere
      · exact .modifyThere (by simp) hthere
      · exact .dropThere (by simp) hthere
    | columnAdd | indexAdd | foreignKeyAdd => exact .addThere (by simp) hthere
    | columnModify => exact .modifyThere (by simp) hthere
    | columnDrop | indexDrop | foreignKeyDrop => exact .dropThere (by simp) hthere
    | columnRename =>
      have htarget := htaken rfl rfl
      by_cases htrue : target = some true
      · simpa [DiffStatus.of, htrue] using renameTaken (htarget.mp htrue)
      · simpa [DiffStatus.of, htrue] using renameFree hthere (mt htarget.mpr htrue)
    | setting hsetting =>
      have hrow := hsetting
      obtain rfl | rfl | rfl := eq_or_eq_or_eq_of_mem hsetting <;>
        exact .settingThere hrow hthere

/-- Two rows of the matrix exclude each other, unless a column that is missing gets a name that is
taken. -/
theorem eq_or_eq (h : StatusMatrix there taken kind action status)
    (h' : StatusMatrix there taken kind action status') :
    status = status' ∨ (kind = .column ∧ action = .rename ∧ ¬ there ∧ taken) := by
  cases h <;> cases h' <;> first | exact .inl rfl | contradiction | exact .inr ⟨rfl, rfl, ‹_›, ‹_›⟩

/-- Something is lost, or nothing is of note, only about what is there. -/
theorem there_of_mem (h : StatusMatrix there taken kind action status)
    (hstatus : status ∈ [.destructive, .info]) : there := by
  cases h <;> first | assumption | simp at hstatus

end StatusMatrix

/-! ### The diff of a migration -/

theorem not_has_of_notMem_keys (h : op.table ∉ schema.tables.keys) : ¬ schema.Has op := by
  rintro ⟨t, ht, -⟩
  exact h (List.mem_map_of_mem ht)

theorem statusMatrix_entry (h : op.WellFormed) :
    StatusMatrix (schema.Has op) (schema.HasTarget op) op.kind op.action
      (schema.entry op).status := by
  rw [status_entry]
  exact .of_fit h (existsBefore_entry_iff h) (targetExists_entry_iff h)

/-- An entry says of an operation what the matrix says: what it reports to be there is there, its status
stands in the matrix and is the only one that does, but for a missing column that gets a name which is
taken, where it is an error. On a table that is not known, nothing is lost and something is to be done.
The status can be recovered from the other fields. -/
structure DiffEntry.FollowsMatrix (e : DiffEntry) (op : Operation) (schema : Snapshot) : Prop where
  kind : e.kind = op.kind
  action : e.action = op.action
  table : e.table = op.table
  line : e.line = op.line
  existsBefore : e.existsBefore ↔ schema.Has op
  targetExists : op.kind = .column → op.action = .rename →
    (e.detail.targetExists = some true ↔ schema.HasTarget op)
  statusMatrix : StatusMatrix (schema.Has op) (schema.HasTarget op) op.kind op.action e.status
  unique : ∀ status,
    StatusMatrix (schema.Has op) (schema.HasTarget op) op.kind op.action status →
      status = e.status ∨ (op.kind = .column ∧ op.action = .rename ∧ ¬ schema.Has op ∧
        schema.HasTarget op ∧ e.status = .error)
  unknown : op.table ∉ schema.tables.keys → e.status ∉ [.destructive, .info]
  status : e.status = .of e.kind e.action e.existsBefore e.detail.targetExists

theorem followsMatrix_entry (h : op.WellFormed) :
    (schema.entry op).FollowsMatrix op schema where
  kind := rfl
  action := rfl
  table := rfl
  line := rfl
  existsBefore := existsBefore_entry_iff h
  targetExists := targetExists_entry_iff h
  statusMatrix := statusMatrix_entry h
  unique status hstatus := by
    refine (hstatus.eq_or_eq (statusMatrix_entry h)).imp_right ?_
    rintro ⟨hkind, haction, hmissing, htaken⟩
    have herror : (schema.entry op).status = .error := by
      have hbefore : (schema.entry op).existsBefore = false := by
        rw [Bool.eq_false_iff]
        exact mt (existsBefore_entry_iff h).mp hmissing
      have hentryKind : (schema.entry op).kind = .column := hkind
      have hentryAction : (schema.entry op).action = .rename := haction
      rw [status_entry, hentryKind, hentryAction, hbefore]
      rfl
    exact ⟨hkind, haction, hmissing, htaken, herror⟩
  unknown hunknown hmem :=
    not_has_of_notMem_keys hunknown ((statusMatrix_entry h).there_of_mem hmem)
  status := status_entry schema op

/-- The diff of a migration follows the matrix: the entries of each kind are, in order, those of the
operations of this kind, and each follows the matrix. -/
theorem diff_follows_matrix (source : String) (schema : Snapshot) (kind : ObjectKind) :
    List.Forall₂ (fun op e => e.FollowsMatrix op schema)
      (((Script.parse source).operationsFor .up).filter (·.kind = kind))
      ((SchemaDiff.of ((Script.parse source).operationsFor .up) schema).category kind) := by
  rw [(SchemaDiff.lists_of _ schema).category, List.forall₂_map_right_iff, List.forall₂_same]
  intro op hop
  exact followsMatrix_entry (wellFormed_of_mem_operationsFor (List.mem_filter.mp hop).1)

end MigrationPreview
