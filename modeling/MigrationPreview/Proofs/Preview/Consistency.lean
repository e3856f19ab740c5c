import Mathlib.Data.Finset.Card
import MigrationPreview.Proofs.Diff.Category
import MigrationPreview.Proofs.Diff.Destructive
import MigrationPreview.Proofs.LineIndex
import MigrationPreview.Proofs.Preview.Dialogue
import MigrationPreview.Proofs.Rollback.Referenced

/-!
# The consistency of reports

The parts of a report are found in different ways: the counts come from the list of operations and from
the index by line, the diff from its categories, and the rollback reads the migration once more. They
agree all the same, for every migration and every schema.

## Main definitions

* `Report.IsConsistent`: the parts of a report agree with each other and with what was analysed

## Main results

* `Script.size_indexByLine`: the size of the index is the number of different lines
* `Report.isConsistent_of`: every report is consistent
* `preview_consistent`: what every preview that succeeds reports, and that some previews never fail
-/

namespace MigrationPreview

/-! ### Lines -/

namespace Script

/-- The size of the index is the number of different lines. -/
theorem size_indexByLine (ops : List Operation) :
    (indexByLine ops).size = (ops.map (·.line)).toFinset.card := by
  have hkeys : (indexByLine ops).keys.toFinset = (ops.map (·.line)).toFinset := by
    ext n
    rw [List.mem_toFinset, List.mem_toFinset, mem_keys_indexByLine_iff]
  rw [← hkeys, List.toFinset_card_of_nodup (SortedMap.nodup_keys _), SortedMap.keys,
    List.length_map]
  rfl

theorem count_eq_length_operationsFor (script : Script) (direction : Direction) :
    script.count direction = (script.operationsFor direction).length :=
  List.countP_eq_length_filter

end Script

/-! ### Rollbacks -/

namespace Rollback

variable {dialect : Dialect} {down : List Operation} {dependencies : List DependencyWarning}

theorem length_operations_of :
    ((of dialect down dependencies).analysis?.map (·.operations.length)).getD 0 = down.length := by
  cases down <;> rfl

theorem of_eq_unavailable_iff :
    (∃ message, of dialect down dependencies = .unavailable message) ↔ down = [] := by
  cases down <;> simp [of]

theorem operations_of {analysis : RollbackAnalysis}
    (h : of dialect down dependencies = .analyzed analysis) : analysis.operations = down := by
  cases down with
  | nil => cases h
  | cons op ops =>
    obtain rfl := Rollback.analyzed.inj h
    rfl

end Rollback

/-! ### Reports -/

theorem RiskLevel.isSome_highest?_iff {levels : List RiskLevel} :
    (highest? levels).isSome ↔ levels ≠ [] := by
  cases levels <;> simp [highest?]

theorem DestructiveChange.direction_eq {source : String} {direction : Direction}
    {change : DestructiveChange}
    (h : change ∈ destructiveChanges ((Script.parse source).operationsFor direction)) :
    change.operation.direction = direction := by
  have hoperation := List.mem_map_of_mem (f := DestructiveChange.operation) h
  rw [map_operation_destructiveChanges, operationsFor_parse] at hoperation
  exact direction_of_mem_operationsIn (List.mem_filter.mp hoperation).1

/-- The parts of a report agree with each other, with the migration `source` and with the schema. -/
structure Report.IsConsistent (r : Report) (source : String) (schema : Snapshot) : Prop where
  upOperations : r.script.upOperations = r.diff.length
  downOperations : r.script.downOperations = (r.rollback.analysis?.map (·.operations.length)).getD 0
  unavailable : (∃ message, r.rollback = .unavailable message) ↔ r.script.downOperations = 0
  /-- The operations that are rolled back are those of `down`. -/
  analyzed : ∀ analysis, r.rollback = .analyzed analysis →
    analysis.operations = (Script.parse source).operationsFor .down
  /-- The lines of the operations of both methods are counted together, each once. -/
  linesWithOperations : r.script.linesWithOperations =
    (((Script.parse source).operationsFor .up ++ (Script.parse source).operationsFor .down).map
      (·.line)).toFinset.card
  destructiveChanges : r.destructiveChanges.map (·.operation) =
    ((Script.parse source).operationsFor .up).filter (·.isDestructive)
  direction : ∀ change ∈ r.destructiveChanges, change.operation.direction = .up
  hasDestructive : r.hasDestructive ↔ r.highestRisk?.isSome
  sourceChecksum : r.sourceChecksum = Sha256.hexDigest source
  schemaChecksum : r.schemaChecksum = schema.checksum

theorem Report.isConsistent_of (dialect : Dialect) (now : Instant) (path source : String)
    (schema : Snapshot) (dependencies : List DependencyWarning) :
    (Report.of dialect now path source schema dependencies).IsConsistent source schema where
  upOperations := (SchemaDiff.length_of _ schema).symm
  downOperations := by
    refine Eq.trans ?_ Rollback.length_operations_of.symm
    exact Script.count_eq_length_operationsFor _ _
  unavailable := by
    have hcount : (Script.parse source).count .down = 0 ↔
        (Script.parse source).operationsFor .down = [] := by
      rw [Script.count_eq_length_operationsFor, List.length_eq_zero_iff]
    exact Rollback.of_eq_unavailable_iff.trans hcount.symm
  analyzed _ := Rollback.operations_of
  linesWithOperations := by
    rw [← Script.operations_parse]
    exact Script.size_indexByLine _
  destructiveChanges := map_operation_destructiveChanges _
  direction _ := DestructiveChange.direction_eq
  hasDestructive := by
    refine Iff.trans ?_ RiskLevel.isSome_highest?_iff.symm
    simp [Report.of]
  sourceChecksum := rfl
  schemaChecksum := rfl

/-! ### Snapshots -/

section Snapshot

variable {m : Type → Type} [Monad m] [LawfulMonad m]

/-- A snapshot answers every question, so a preview over it never fails, whatever failures there are. -/
theorem exists_preview_provider (schema : Snapshot) (dialect : Dialect) (now : Instant)
    (path source : String) :
    ∃ report, (preview schema.provider dialect now path source : m Report) = pure report ∧
      report.IsConsistent source schema := by
  obtain ⟨warnings, hwarnings, -⟩ := exists_warnings (m := m) schema
    ((Script.parse source).operationsFor .down)
  refine ⟨.of dialect now path source schema warnings, ?_, Report.isConsistent_of ..⟩
  have hschema : schema.provider .currentSchema = (pure schema : m Snapshot) := rfl
  rw [preview_eq, hschema, pure_bind, hwarnings, pure_bind]

end Snapshot

/-! ### Previews -/

/-- For every migration and every provider: if no call of the preview fails there is a report, and every
report is consistent with the schema that the provider gave when it was asked first. Over a snapshot
there always is a report. -/
theorem preview_consistent {ε : Type} (responder : Responder ε) (dialect : Dialect) (now : Instant)
    (path source : String) :
    let run := (preview responder.provider dialect now path source).record
    ((∀ call ∈ run.2, call.Answered) → ∃ report, run.1 = .ok report) ∧
    (∀ report, run.1 = .ok report → ∃ schema, run.2.head? = some ⟨.currentSchema, .ok schema⟩ ∧
      report.IsConsistent source schema) ∧
    ∀ schema : Snapshot, ∃ report,
      (preview schema.provider dialect now path source : Except ε Report) = .ok report ∧
        report.IsConsistent source schema := by
  obtain ⟨calls, result, hconducts, hdialogue, hreport⟩ :=
    exists_conducts_preview responder dialect now path source
  have hstops : StopsAtFailure calls result := (StopsAtFailure.map_iff _).mp hdialogue.stopsAtFailure
  rw [hconducts.record_eq]
  refine ⟨hstops.exists_ok, ?_, fun schema => exists_preview_provider schema dialect now path source⟩
  intro report hresult
  obtain ⟨schema, dependencies, hfirst, rfl⟩ := hreport report hresult
  exact ⟨schema, hfirst, Report.isConsistent_of dialect now path source schema dependencies⟩

/-- The replies of a snapshot. -/
def Snapshot.responder {ε : Type} (schema : Snapshot) : Responder ε := fun _ question =>
  .ok (schema.answer question)

/-- A migration that drops two columns on one line, and the table when it is taken back. -/
def droppedTogether : List Char :=
  ['\n'].intercalate <| List.map String.toList
    ["class M \x7b",
      " public function up() \x7b",
      "  Schema::table('users', function (Blueprint $table) \x7b",
      "    $table->dropColumn(['name', 'email']);",
      "  \x7d);",
      " \x7d",
      " public function down() \x7b",
      "  Schema::drop('users');",
      " \x7d",
      "\x7d"]

/-- The line with two operations is counted once. -/
theorem preview_consistent_of_droppedTogether :
    let source := String.ofList droppedTogether
    let run := (preview (Snapshot.ofUsers.responder : Responder Failure).provider .postgres
      Snapshot.ofUsers.capturedAt "drop.php" source).record
    ∃ report schema, run.1 = .ok report ∧ report.IsConsistent source schema ∧
      report.destructiveChanges.length = 2 ∧ report.script.linesWithOperations = 3 := by
  intro source run
  have hup : (Script.parse source).operationsFor .up =
      [⟨.table, .modify, .up, { table := "users" }, 3⟩,
        ⟨.column, .drop, .up, { table := "users", column := some "name" }, 4⟩,
        ⟨.column, .drop, .up, { table := "users", column := some "email" }, 4⟩] := by
    rw [operationsFor_parse, String.toList_ofList]
    decide +kernel
  have hdown : (Script.parse source).operationsFor .down =
      [⟨.table, .drop, .down, { table := "users" }, 8⟩] := by
    rw [operationsFor_parse, String.toList_ofList]
    decide +kernel
  have hanswered : ∀ call ∈ run.2, call.Answered := by
    obtain ⟨calls, outcome, hconducts, -⟩ := exists_conducts_preview
      (Snapshot.ofUsers.responder : Responder Failure) .postgres Snapshot.ofUsers.capturedAt
      "drop.php" source
    have hrun : run = (outcome, calls) := hconducts.record_eq
    rw [hrun]
    exact hconducts.faithful.answered fun _ question => ⟨Snapshot.ofUsers.answer question, rfl⟩
  obtain ⟨hsucceeds, hconsistent, -⟩ := preview_consistent (Snapshot.ofUsers.responder : Responder
    Failure) .postgres Snapshot.ofUsers.capturedAt "drop.php" source
  obtain ⟨report, hreport⟩ := hsucceeds hanswered
  obtain ⟨schema, -, hschema⟩ := hconsistent report hreport
  refine ⟨report, schema, hreport, hschema, ?_, ?_⟩
  · have hchanges := congrArg List.length hschema.destructiveChanges
    rw [List.length_map, hup] at hchanges
    exact hchanges
  · rw [hschema.linesWithOperations, hup, hdown]
    decide

end MigrationPreview
