import MigrationPreview.Proofs.Preview.Consistency

/-!
# What the preview of statements shows

A destructive operation of a migration names everything that its statement needs, whichever way it was
written, so the statements of a rollback are those of its destructive steps: none is missing, none is
added, and each stands with the line, the kind and the action of its step. Nothing else in the analysis of
a rollback depends on the dialect.

## Main definitions

* `SqlLine.Shows`: a line of the preview shows an operation
* `RollbackAnalysis.SameButSql`, `Rollback.SameButSql`: two analyses differ in the text of their
  statements at most

## Main results

* `Dialect.isSome_statement?_iff`: which well-formed operations have a statement
* `Dialect.forall₂_shows_sqlLines`: the lines of a preview show the destructive operations, one by one
* `sqlPreview_exact`: the preview of every rollback, in every dialect
-/

namespace MigrationPreview

variable {ε α β : Type}

/-! ### Operations with a statement -/

/-- Well-formed operations have a statement if and only if they are destructive. -/
theorem Dialect.isSome_statement?_iff (d : Dialect) {op : Operation} (h : op.WellFormed) :
    (d.statement? op).isSome ↔ op.isDestructive := by
  obtain ⟨kind, action, direction, details, line⟩ := op
  -- for each kind of call, the details that the statement prints are those that the call gives
  cases h with
  | table known =>
    obtain rfl | rfl | rfl := eq_or_eq_or_eq_of_mem known <;>
      simp [statement?, Operation.isDestructive]
  | columnDrop | columnRename => simp [statement?, Operation.isDestructive]
  | indexDrop | foreignKeyDrop => cases d <;> simp [statement?, Operation.isDestructive]
  | columnAdd | columnModify | indexAdd | foreignKeyAdd =>
    simp [statement?, Operation.isDestructive]
  | setting isSetting =>
    obtain rfl | rfl | rfl := eq_or_eq_or_eq_of_mem isSetting <;>
      simp [statement?, Operation.isDestructive]

theorem wellFormed_of_mem_parse {source : String} {op : Operation}
    (h : op ∈ (Script.parse source).operations) : op.WellFormed := by
  rcases List.mem_append.mp h with h | h
  · exact wellFormed_of_mem_operationsIn h
  · exact wellFormed_of_mem_operationsIn h

/-! ### Lines of a preview -/

/-- A line of a preview shows an operation: it has the line, the kind and the action of the operation and
the text of its statement. -/
structure SqlLine.Shows (l : SqlLine) (d : Dialect) (op : Operation) : Prop where
  line : l.line = op.line
  kind : l.kind = op.kind
  action : l.action = op.action
  sql : d.statement? op = some l.sql

/-- The lines of a preview show the destructive operations, one by one. -/
theorem Dialect.forall₂_shows_sqlLines (d : Dialect) {ops : List Operation}
    (hops : ∀ op ∈ ops, op.WellFormed) :
    List.Forall₂ (fun l op => l.Shows d op) (d.sqlLines ops) (ops.filter (·.isDestructive)) := by
  induction ops with
  | nil => exact .nil
  | cons op ops ih =>
    have hop := d.isSome_statement?_iff (hops op List.mem_cons_self)
    have hrest := ih fun op hop => hops op (List.mem_cons_of_mem _ hop)
    unfold sqlLines at hrest ⊢
    cases hsql : d.statement? op with
    | none =>
      have hharmless : ¬ op.isDestructive := by
        intro hdestructive
        simp [hsql, hdestructive] at hop
      rw [List.filterMap_cons_none (by rw [hsql, Option.map_none]), List.filter_cons_of_neg hharmless]
      exact hrest
    | some sql =>
      have hdestructive : op.isDestructive := hop.mp (by rw [hsql, Option.isSome_some])
      rw [List.filterMap_cons_some (by rw [hsql, Option.map_some]),
        List.filter_cons_of_pos hdestructive]
      exact .cons ⟨rfl, rfl, rfl, hsql⟩ hrest

/-- Lines that show operations stand in their order. -/
theorem SqlLine.pairwise_line_of_shows {d : Dialect} {lines : List SqlLine} {ops : List Operation}
    (h : List.Forall₂ (fun l op => l.Shows d op) lines ops)
    (hops : ops.Pairwise (·.line ≤ ·.line)) : lines.Pairwise (·.line ≤ ·.line) := by
  have hlines : lines.map (·.line) = ops.map (·.line) := by
    induction h with
    | nil => rfl
    | cons hshows _ ih =>
      rw [List.map_cons, List.map_cons, hshows.line, ih (List.pairwise_cons.mp hops).2]
  rw [← List.pairwise_map (f := SqlLine.line) (R := (· ≤ ·)), hlines, List.pairwise_map]
  exact hops

/-! ### Dialects -/

/-- Two analyses of a rollback are the same except for the text of their statements. -/
structure RollbackAnalysis.SameButSql (a b : RollbackAnalysis) : Prop where
  operations : a.operations = b.operations
  dependencies : a.dependencies = b.dependencies
  impact : a.impact = b.impact
  sqlPreview : List.Forall₂ (fun l m => l.line = m.line ∧ l.kind = m.kind ∧ l.action = m.action)
    a.sqlPreview b.sqlPreview

/-- Two rollbacks are the same except for the text of their statements. -/
inductive Rollback.SameButSql : Rollback → Rollback → Prop where
  | unavailable (message : String) : SameButSql (.unavailable message) (.unavailable message)
  | analyzed {a b : RollbackAnalysis} (h : a.SameButSql b) : SameButSql (.analyzed a) (.analyzed b)

/-- Lines that show the same operations are the same except for their text, whatever the dialects. -/
theorem SqlLine.forall₂_of_shows {d d' : Dialect} {lines lines' : List SqlLine}
    {ops : List Operation} (h : List.Forall₂ (fun l op => l.Shows d op) lines ops)
    (h' : List.Forall₂ (fun l op => l.Shows d' op) lines' ops) :
    List.Forall₂ (fun l m => l.line = m.line ∧ l.kind = m.kind ∧ l.action = m.action)
      lines lines' := by
  induction h generalizing lines' with
  | nil =>
    cases h'
    exact .nil
  | cons hshows _ ih =>
    cases h' with
    | cons hshows' hrest' =>
      refine .cons ⟨?_, ?_, ?_⟩ (ih hrest')
      · rw [hshows.line, hshows'.line]
      · rw [hshows.kind, hshows'.kind]
      · rw [hshows.action, hshows'.action]

/-- In two dialects a rollback with the same warnings is the same except for the text of its
statements. -/
theorem Rollback.sameButSql_of (d d' : Dialect) {down : List Operation}
    (hdown : ∀ op ∈ down, op.WellFormed) (dependencies : List DependencyWarning) :
    (of d down dependencies).SameButSql (of d' down dependencies) := by
  unfold of
  split
  · exact .unavailable noRollbackMessage
  · exact .analyzed
      { operations := rfl
        dependencies := rfl
        impact := rfl
        sqlPreview := SqlLine.forall₂_of_shows (d.forall₂_shows_sqlLines hdown)
          (d'.forall₂_shows_sqlLines hdown) }

/-! ### Rollbacks -/

theorem Rollback.sqlPreview_of {d : Dialect} {down : List Operation}
    {dependencies : List DependencyWarning} {analysis : RollbackAnalysis}
    (h : of d down dependencies = .analyzed analysis) : analysis.sqlPreview = d.sqlLines down := by
  unfold of at h
  split at h
  · cases h
  · obtain rfl := Rollback.analyzed.inj h
    rfl

/-- What is computed from the outcome of an analysis adds no calls. -/
theorem Recorded.record_map (analysis : Recorded ε α) (f : α → β) :
    (do return f (← analysis) : Recorded ε β).record =
      (analysis.record.1.map f, analysis.record.2) := by
  unfold record
  rw [ExceptT.run_bind, StateT.run_bind]
  rcases hrun : analysis.run.run [] with ⟨_ | _, calls⟩
  · rfl
  · rfl

/-- For every migration, every provider and every dialect: the operations with a statement are the
destructive ones. Whenever a rollback is analysed, the preview shows the destructive steps of `down`, one
by one and in the order of the source. Another dialect leads to the same calls and to the same failure, or
to a rollback that is the same except for the text of its statements. -/
theorem sqlPreview_exact (responder : Responder ε) (source : String) (d : Dialect) :
    let down := (Script.parse source).operationsFor .down
    let run (d : Dialect) := (simulateRollback responder.provider d source).record
    (∀ op ∈ (Script.parse source).operations, (d.statement? op).isSome ↔ op.isDestructive) ∧
    (∀ analysis, (run d).1 = .ok (.analyzed analysis) →
      List.Forall₂ (fun l op => l.Shows d op) analysis.sqlPreview (down.filter (·.isDestructive)) ∧
      analysis.sqlPreview.Pairwise (·.line ≤ ·.line)) ∧
    ∀ d', (run d').2 = (run d).2 ∧
      ((∃ e, (run d).1 = .error e ∧ (run d').1 = .error e) ∨
        ∃ r r', (run d).1 = .ok r ∧ (run d').1 = .ok r' ∧ r.SameButSql r') := by
  intro down run
  have hdown : ∀ op ∈ down, op.WellFormed := fun _ hop => wellFormed_of_mem_operationsFor hop
  -- the dialect plays no part until the warnings are known
  have hrun (d : Dialect) : run d =
      ((dependencyWarnings responder.provider down).record.1.map (Rollback.of d down),
        (dependencyWarnings responder.provider down).record.2) := by
    simp only [run, simulateRollback_eq]
    exact Recorded.record_map _ _
  simp only [hrun]
  generalize (dependencyWarnings responder.provider down).record = warnings
  obtain ⟨outcome, calls⟩ := warnings
  refine ⟨fun op hop => d.isSome_statement?_iff (wellFormed_of_mem_parse hop), ?_, ?_⟩
  · intro analysis hanalysis
    cases outcome with
    | error e => cases hanalysis
    | ok dependencies =>
      have hshows := d.forall₂_shows_sqlLines hdown
      rw [Rollback.sqlPreview_of (Except.ok.inj hanalysis)]
      refine ⟨hshows, SqlLine.pairwise_line_of_shows hshows ?_⟩
      exact (pairwise_line_operationsFor .down source).filter _
  · intro d'
    refine ⟨trivial, ?_⟩
    cases outcome with
    | error e => exact .inl ⟨e, rfl, rfl⟩
    | ok dependencies =>
      exact .inr ⟨_, _, rfl, rfl, Rollback.sameButSql_of d d' hdown dependencies⟩

/-- A migration whose `down` method destroys in every way, two columns on one line, and changes a table
besides. -/
def undoing : List Char :=
  ['\n'].intercalate <| List.map String.toList
    ["class M \x7b public function down() \x7b",
      "  Schema::table('posts', function (Blueprint $table) \x7b",
      "    $table->dropForeign(['user_id']);",
      "    $table->dropIndex('posts_title_index');",
      "    $table->renameColumn('body', 'text');",
      "    $table->dropColumn(['title', 'user_id']);",
      "  \x7d);",
      "  Schema::drop('users');",
      "\x7d \x7d"]

/-- The step that changes a table has no statement, and each of the two columns has one. -/
theorem sqlPreview_exact_of_undoing :
    let run (d : Dialect) := (simulateRollback (Snapshot.ofUsers.responder : Responder Failure).provider
      d (String.ofList undoing)).record
    ∃ analysis other, (run .postgres).1 = .ok (.analyzed analysis) ∧
      (run .mySql).1 = .ok (.analyzed other) ∧ analysis.SameButSql other ∧
      analysis.operations.length = 7 ∧ analysis.sqlPreview.length = 6 := by
  intro run
  have hdown : (Script.parse (String.ofList undoing)).operationsFor .down =
      [⟨.table, .modify, .down, { table := "posts" }, 2⟩,
        ⟨.foreignKey, .drop, .down,
          { table := "posts", columns := ["user_id"], name := some "posts_user_id_foreign" }, 3⟩,
        ⟨.index, .drop, .down, { table := "posts", name := some "posts_title_index" }, 4⟩,
        ⟨.column, .rename, .down,
          { table := "posts", source := some "body", target := some "text" }, 5⟩,
        ⟨.column, .drop, .down, { table := "posts", column := some "title" }, 6⟩,
        ⟨.column, .drop, .down, { table := "posts", column := some "user_id" }, 6⟩,
        ⟨.table, .drop, .down, { table := "users" }, 8⟩] := by
    rw [operationsFor_parse, String.toList_ofList]
    decide +kernel
  obtain ⟨-, hpreview, hdialects⟩ :=
    sqlPreview_exact (Snapshot.ofUsers.responder : Responder Failure) (String.ofList undoing) .postgres
  obtain ⟨dependencies, hrun⟩ : ∃ dependencies, (run .postgres).1 =
      .ok (.analyzed ⟨_, dependencies, Dialect.postgres.sqlLines _, .of _⟩) := by
    simp only [run, simulateRollback_eq, hdown]
    exact ⟨_, rfl⟩
  obtain ⟨hshows, -⟩ := hpreview _ hrun
  obtain ⟨-, ⟨e, herror, -⟩ | ⟨r, r', hr, hr', hsame⟩⟩ := hdialects .mySql
  · rw [hrun] at herror
    cases herror
  · rw [hrun] at hr
    obtain rfl := Except.ok.inj hr
    cases hsame with
    | analyzed hsame =>
      refine ⟨_, _, hrun, hr', hsame, rfl, ?_⟩
      rw [hshows.length_eq, hdown]
      decide

end MigrationPreview
