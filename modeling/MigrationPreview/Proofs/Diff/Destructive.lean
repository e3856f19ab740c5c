import MigrationPreview.Preview.Report
import MigrationPreview.Proofs.Diff.Matrix

/-!
# What is lost

Three tables say which operations destroy something: the statuses of a diff, its messages and the list
of destructive changes. The list looks at the operation alone. The other two also look at the schema, and
agree with the list where the object of the operation is there and, for a renamed column, where the new
name is free. So the diff never reports a loss that the list leaves out.

## Main definitions

* `IsMarked`: a message says at its end that something is destroyed

## Main results

* `DiffStatus.of_eq_destructive_iff`: when the status of an operation is a loss
* `Operation.isMarked_message_finding_iff`: when its message is marked
* `losses_agree`: the diff, its messages and the destructive changes of a report
-/

namespace MigrationPreview

variable {op : Operation} {schema : Snapshot} {table : Option Table}

/-! ### Marked messages -/

/-- A message ends with the mark of a loss. -/
def IsMarked (message : String) : Prop := ∃ beginning, message = beginning ++ "(DESTRUCTIVE)"

theorem isMarked_append (front : String) : IsMarked (front ++ "' (DESTRUCTIVE)") :=
  ⟨front ++ "' ", by rw [String.append_assoc]; rfl⟩

/-- A message that does not end with a parenthesis is not marked. -/
theorem not_isMarked_append (front : String) {back : String} {c : Char}
    (h : back.toList.getLast? = some c) (hc : c ≠ ')') : ¬ IsMarked (front ++ back) := by
  rintro ⟨beginning, heq⟩
  have hlast := congrArg (fun message : String => message.toList.getLast?) heq
  simp only [String.toList_append, List.getLast?_append, h, Option.some_or] at hlast
  exact hc (Option.some_inj.mp hlast)

namespace Operation

theorem isMarked_tableFinding_iff :
    IsMarked (op.tableFinding table).message ↔ op.action = .drop ∧ table.isSome := by
  unfold tableFinding
  by_cases h : op.action = .drop ∧ table.isSome
  · refine iff_of_true ?_ h
    rw [h.1, h.2]
    exact isMarked_append _
  · refine iff_of_false ?_ h
    dsimp only
    split
    case h_4 haction hsome => exact absurd ⟨haction, hsome⟩ h
    all_goals exact not_isMarked_append _ rfl (by decide)

theorem isMarked_renameFinding_iff :
    IsMarked (op.renameFinding table).message ↔ (op.renameFinding table).existsBefore ∧
      (op.renameFinding table).targetExists ≠ some true := by
  unfold renameFinding
  dsimp only
  split
  · next hsource htarget => exact iff_of_true (isMarked_append _) (by simp [hsource, htarget])
  · next htarget =>
    exact iff_of_false (not_isMarked_append _ rfl (by decide)) (by simp [htarget])
  · next hsource =>
    exact iff_of_false (not_isMarked_append _ rfl (by decide)) (by simp [hsource])

theorem isMarked_columnFinding_iff :
    IsMarked (op.columnFinding table).message ↔
      op.action = .drop ∧ (op.columnFinding table).existsBefore := by
  unfold columnFinding
  dsimp only
  split
  · next hadd _ => exact iff_of_false (not_isMarked_append _ rfl (by decide)) (by simp [hadd])
  · next hadd _ => exact iff_of_false (not_isMarked_append _ rfl (by decide)) (by simp [hadd])
  · next hmodify _ =>
    exact iff_of_false (not_isMarked_append _ rfl (by decide)) (by simp [hmodify])
  · next hdrop hsome => exact iff_of_true (isMarked_append _) ⟨hdrop, hsome⟩
  · next hdrop =>
    exact iff_of_false (not_isMarked_append _ rfl (by decide)) fun h => hdrop h.1 h.2

theorem isMarked_indexFinding_iff :
    IsMarked (op.indexFinding table).message ↔
      op.action = .drop ∧ (op.indexFinding table).existsBefore := by
  unfold indexFinding
  dsimp only
  split
  · next hadd _ => exact iff_of_false (not_isMarked_append _ rfl (by decide)) (by simp [hadd])
  · next hadd _ => exact iff_of_false (not_isMarked_append _ rfl (by decide)) (by simp [hadd])
  · next hdrop hsome => exact iff_of_true (isMarked_append _) ⟨hdrop, hsome⟩
  · next hdrop =>
    exact iff_of_false (not_isMarked_append _ rfl (by decide)) fun h => hdrop h.1 h.2

theorem not_isMarked_newKeyFinding : ¬ IsMarked (op.newKeyFinding table).message := by
  unfold newKeyFinding
  dsimp only
  split_ifs <;> exact not_isMarked_append _ rfl (by decide)

theorem isMarked_keyFinding_iff :
    IsMarked (op.keyFinding table).message ↔ (op.keyFinding table).existsBefore := by
  unfold keyFinding
  dsimp only
  split_ifs with hsome
  · exact iff_of_true (isMarked_append _) hsome
  · exact iff_of_false (not_isMarked_append _ rfl (by decide)) hsome

theorem not_isMarked_settingFinding : ¬ IsMarked (op.settingFinding table).message := by
  unfold settingFinding
  dsimp only
  split_ifs <;> exact not_isMarked_append _ rfl (by decide)

/-- A message is marked exactly if the operation is destructive, its object is there and, for a renamed
column, the new name is free. -/
theorem isMarked_message_finding_iff (h : op.WellFormed) :
    IsMarked (op.finding table).message ↔ op.isDestructive ∧ (op.finding table).existsBefore ∧
      (op.action = .rename → (op.finding table).targetExists ≠ some true) := by
  obtain ⟨kind, action, direction, details, line⟩ := op
  cases h with
  | table known =>
    refine isMarked_tableFinding_iff.trans ?_
    obtain rfl | rfl | rfl := eq_or_eq_or_eq_of_mem known <;>
      simp [isDestructive, finding, tableFinding]
  | columnAdd | columnModify | columnDrop =>
    refine isMarked_columnFinding_iff.trans ?_
    simp [isDestructive, finding]
  | columnRename =>
    refine isMarked_renameFinding_iff.trans ?_
    simp [isDestructive, finding]
  | indexAdd | indexDrop =>
    refine isMarked_indexFinding_iff.trans ?_
    simp [isDestructive, finding]
  | foreignKeyAdd =>
    refine iff_of_false not_isMarked_newKeyFinding ?_
    simp [isDestructive]
  | foreignKeyDrop =>
    refine isMarked_keyFinding_iff.trans ?_
    simp [isDestructive, finding]
  | setting hsetting =>
    obtain rfl | rfl | rfl := eq_or_eq_or_eq_of_mem hsetting <;>
    · refine iff_of_false not_isMarked_settingFinding ?_
      simp [isDestructive]

end Operation

/-! ### Statuses -/

/-- A status is a loss exactly if the operation is destructive, its object is there and, for a renamed
column, the new name is free. -/
theorem DiffStatus.of_eq_destructive_iff {present : Bool} {target : Option Bool} :
    of op.kind op.action present target = .destructive ↔
      op.isDestructive ∧ present ∧ (op.action = .rename → target ≠ some true) := by
  obtain ⟨kind, action, direction, details, line⟩ := op
  cases kind <;> cases action <;> cases present <;> simp [of, Operation.isDestructive]

/-- Something destructive is a loss, or not what the schema expects. -/
theorem DiffStatus.of_mem_of_isDestructive {present : Bool} {target : Option Bool}
    (h : op.isDestructive) :
    of op.kind op.action present target ∈ [.destructive, .warning, .error] := by
  obtain ⟨kind, action, direction, details, line⟩ := op
  revert h
  cases kind <;> cases action <;> cases present <;> simp [of, Operation.isDestructive]
  -- only a renamed column is left, whose new name is free or taken
  by_cases htaken : target = some true <;> simp [htaken]

theorem Operation.kind_eq_column_of_isDestructive (h : op.isDestructive)
    (haction : op.action = .rename) : op.kind = .column := by
  cases hkind : op.kind <;> simp [isDestructive, hkind, haction] at h ⊢

theorem status_entry_eq_destructive_iff (h : op.WellFormed) :
    (schema.entry op).status = .destructive ↔
      op.isDestructive ∧ schema.Has op ∧ (op.action = .rename → ¬ schema.HasTarget op) := by
  rw [status_entry]
  refine (@DiffStatus.of_eq_destructive_iff op _ _).trans ?_
  refine and_congr_right fun hdestructive => and_congr (existsBefore_entry_iff h) ?_
  refine forall_congr' fun haction => not_congr ?_
  have hkind := Operation.kind_eq_column_of_isDestructive hdestructive haction
  exact targetExists_entry_iff h hkind haction

theorem status_entry_eq_destructive_iff_isMarked (h : op.WellFormed) :
    (schema.entry op).status = .destructive ↔ IsMarked (schema.entry op).message :=
  DiffStatus.of_eq_destructive_iff.trans (Operation.isMarked_message_finding_iff h).symm

/-! ### Reports -/

/-- The destructive changes are the destructive operations. -/
theorem map_operation_destructiveChanges (ops : List Operation) :
    (destructiveChanges ops).map (·.operation) = ops.filter (·.isDestructive) := by
  rw [destructiveChanges, List.map_map]
  exact List.map_id _

/-- A loss that a diff reports is among the destructive changes. -/
theorem sublist_map_operation_destructiveChanges (ops : List Operation) (schema : Snapshot) :
    (ops.filter fun op => (schema.entry op).status = .destructive).Sublist
      ((destructiveChanges ops).map (·.operation)) := by
  rw [map_operation_destructiveChanges]
  refine List.monotone_filter_right ops fun op hloss => ?_
  have hstatus : DiffStatus.of op.kind op.action _ _ = .destructive := of_decide_eq_true hloss
  exact (DiffStatus.of_eq_destructive_iff.mp hstatus).1

/-- For every migration and every snapshot, the diff of the report has one entry for each operation of
`up`. The status of the entry is a loss exactly if its message is marked, and exactly if the operation is
destructive, its object is there and, for a renamed column, the new name is free. The operations whose
entries are losses are among the destructive changes, in their order; there are none if the report has
no destructive changes. Conversely every destructive change has an entry that is a loss, a warning or an
error. -/
theorem losses_agree (schema : Snapshot) (dialect : Dialect) (now : Instant)
    (path source : String) :
    let ops := (Script.parse source).operationsFor .up
    let report := Id.run (preview schema.provider dialect now path source)
    (∀ kind, report.diff.category kind = (ops.filter (·.kind = kind)).map schema.entry) ∧
    (∀ op ∈ ops,
      ((schema.entry op).status = .destructive ↔ IsMarked (schema.entry op).message) ∧
      ((schema.entry op).status = .destructive ↔ op.isDestructive ∧ schema.Has op ∧
        (op.action = .rename → ¬ schema.HasTarget op))) ∧
    (ops.filter fun op => (schema.entry op).status = .destructive).Sublist
      (report.destructiveChanges.map (·.operation)) ∧
    (report.hasDestructive = false → ∀ e ∈ report.diff.entries, e.status ≠ .destructive) ∧
    (∀ change ∈ report.destructiveChanges, change.operation ∈ ops ∧
      (schema.entry change.operation).status ∈ [.destructive, .warning, .error]) := by
  intro ops report
  have hdiff : report.diff = .of ops schema := rfl
  have hchanges : report.destructiveChanges = destructiveChanges ops := rfl
  have hsublist := sublist_map_operation_destructiveChanges ops schema
  refine ⟨?_, ?_, by rwa [hchanges], ?_, ?_⟩
  · rw [hdiff]
    exact (SchemaDiff.lists_of ops schema).category
  · intro op hop
    have hwell := wellFormed_of_mem_operationsFor hop
    exact ⟨status_entry_eq_destructive_iff_isMarked hwell, status_entry_eq_destructive_iff hwell⟩
  · intro hnone e he hloss
    rw [hdiff] at he
    obtain ⟨op, hop, rfl⟩ := SchemaDiff.mem_entries_of_iff.mp he
    have hempty : destructiveChanges ops = [] := by
      have hflag : (!(destructiveChanges ops).isEmpty) = false := hnone
      simpa using hflag
    rw [hempty] at hsublist
    have hmem := hsublist.subset (List.mem_filter.mpr ⟨hop, decide_eq_true hloss⟩)
    simp at hmem
  · intro change hchange
    have hoperation := List.mem_map_of_mem (f := DestructiveChange.operation) hchange
    rw [hchanges, map_operation_destructiveChanges, List.mem_filter] at hoperation
    exact ⟨hoperation.1, DiffStatus.of_mem_of_isDestructive hoperation.2⟩

/-- A snapshot of one table with two columns. -/
def Snapshot.ofUsers : Snapshot where
  capturedAt := ⟨⟨2024, 1, 31, by decide⟩, 0, 0, by decide, by decide⟩
  schema := "public"
  tables := .ofList [("users",
    { name := "users"
      columns := [{ name := "name", dataType := "text" }, { name := "email", dataType := "text" }] })]
  checksum := ""

/-- A migration that renames two columns, the second one to a name that is taken. -/
def renamedTwice : List Char :=
  ['\n'].intercalate <| List.map String.toList
    ["class M \x7b public function up() \x7b",
      "  Schema::table('users', function (Blueprint $table) \x7b",
      "    $table->renameColumn('name', 'full_name');",
      "    $table->renameColumn('name', 'email');",
      "  \x7d);",
      "\x7d \x7d"]

/-- A free name makes a rename a loss, a taken one does not. -/
theorem losses_agree_of_renaming :
    ∃ free taken : Operation,
      (Script.parse (String.ofList renamedTwice)).operationsFor .up =
        [⟨.table, .modify, .up, { table := "users" }, 2⟩, free, taken] ∧
      (Snapshot.ofUsers.entry free).status = .destructive ∧
      IsMarked (Snapshot.ofUsers.entry free).message ∧
      ¬ IsMarked (Snapshot.ofUsers.entry taken).message := by
  have hops : (Script.parse (String.ofList renamedTwice)).operationsFor .up =
      [⟨.table, .modify, .up, { table := "users" }, 2⟩,
        ⟨.column, .rename, .up,
          { table := "users", source := some "name", target := some "full_name" }, 3⟩,
        ⟨.column, .rename, .up,
          { table := "users", source := some "name", target := some "email" }, 4⟩] := by
    rw [operationsFor_parse, String.toList_ofList]
    decide +kernel
  have hagree := (losses_agree Snapshot.ofUsers .postgres Snapshot.ofUsers.capturedAt
    "rename.php" (String.ofList renamedTwice)).2.1
  rw [hops] at hagree
  have hfree := (hagree _ (List.mem_cons_of_mem _ List.mem_cons_self)).1
  have htaken := (hagree _ (List.mem_cons_of_mem _ (List.mem_cons_of_mem _ List.mem_cons_self))).1
  refine ⟨_, _, hops, by decide +kernel, hfree.mp (by decide +kernel), ?_⟩
  exact mt htaken.mpr (by decide +kernel)

end MigrationPreview
