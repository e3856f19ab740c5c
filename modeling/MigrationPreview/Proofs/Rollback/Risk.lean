import MigrationPreview.Proofs.Preview.Dialogue
import MigrationPreview.Proofs.Rollback.Impact

/-!
# The ratings of a rollback agree

A rollback is rated three times. Each warning about one of its steps has a risk, its impact has one, and so
has each of the destructive changes among its steps. Each rating goes by a table of its own, and not all
steps are in each table: an index that is dropped adds nothing to the risk of the impact, and a column that is
renamed is neither warned of nor in the impact. Still no rating is above the next one, and what the impact
names is named by a destructive change.

Nothing is assumed of the steps, whose kinds, actions and details may be any, nor of the provider, which may
reply to each call as it likes.

## Main definitions

* `DependencyWarning.Rates`: a warning is about a step and has its risk

## Main results

* `Operation.rates_of_run`, `exists_rates_of_run`: a step and a run of steps warn of nothing else
* `ratings_agree`: the order of the three ratings, and what is named by them
-/

namespace MigrationPreview

variable {ε α β : Type}

/-! ### Warnings -/

namespace Recorded

/-- An analysis in two parts that succeeds has parts that succeed. -/
theorem exists_of_run_bind {analysis : Recorded ε α} {next : α → Recorded ε β}
    {earlier later : List (Exchange ε)} {b : β}
    (h : (analysis >>= next).run.run earlier = (.ok b, later)) :
    ∃ a between, analysis.run.run earlier = (.ok a, between) ∧
      (next a).run.run between = (.ok b, later) := by
  rw [ExceptT.run_bind, StateT.run_bind] at h
  rcases hrun : analysis.run.run earlier with ⟨e | a, between⟩
  · rw [hrun] at h
    cases h
  · rw [hrun] at h
    exact ⟨a, between, rfl, h⟩

theorem eq_of_run_pure {earlier later : List (Exchange ε)} {a b : α}
    (h : (pure a : Recorded ε α).run.run earlier = (.ok b, later)) : a = b :=
  Except.ok.inj (congrArg Prod.fst h)

end Recorded

/-- A warning rates a step: it is of the kind that the step calls for, it is about the table of the step, and
it has its risk. -/
structure DependencyWarning.Rates (w : DependencyWarning) (op : Operation) : Prop where
  kind : op.dependencyKind? = some w.kind
  table : w.table = op.table
  risk : w.risk = op.risk

section Runs

variable {responder : Responder ε} {earlier later : List (Exchange ε)} {op : Operation}
  {ops : List Operation} {w : DependencyWarning}

theorem kind_eq_of_tableDropWarning? {table : String}
    (h : (tableDropWarning? responder.provider table).run.run earlier = (.ok (some w), later)) :
    w.kind = .tableDrop ∧ w.table = table ∧ w.risk = .critical := by
  obtain ⟨there, between, -, h⟩ := Recorded.exists_of_run_bind h
  cases there with
  | false => cases Recorded.eq_of_run_pure h
  | true =>
    obtain ⟨names, between', -, h⟩ := Recorded.exists_of_run_bind h
    dsimp only at h
    split at h
    · cases Recorded.eq_of_run_pure h
    · obtain rfl := Option.some.inj (Recorded.eq_of_run_pure h)
      exact ⟨rfl, rfl, rfl⟩

/-- The step: a warning about a step rates it. -/
theorem Operation.rates_of_run
    (h : (op.dependencyWarning? responder.provider).run.run earlier = (.ok (some w), later)) :
    w.Rates op := by
  unfold dependencyWarning? at h
  split at h
  case h_4 hkind haction =>
    obtain ⟨hw, htable, hrisk⟩ := kind_eq_of_tableDropWarning? h
    exact ⟨by simp [dependencyKind?, *], htable, by simp [risk, *]⟩
  case h_5 => cases Recorded.eq_of_run_pure h
  all_goals
    obtain rfl := Option.some.inj (Recorded.eq_of_run_pure h)
    exact ⟨by simp [dependencyKind?, *], rfl, by simp [risk, *]⟩

/-- The run: by induction on the steps, every warning rates one of them. -/
theorem exists_rates_of_run {warnings : List DependencyWarning}
    (h : (dependencyWarnings responder.provider ops).run.run earlier = (.ok warnings, later)) :
    ∀ w ∈ warnings, ∃ op ∈ ops, w.Rates op := by
  induction ops generalizing earlier later warnings with
  | nil =>
    obtain rfl := Recorded.eq_of_run_pure h
    exact List.forall_mem_nil _
  | cons op ops ih =>
    obtain ⟨warning, between, hstep, h⟩ := Recorded.exists_of_run_bind h
    obtain ⟨rest, between', hrest, h⟩ := Recorded.exists_of_run_bind h
    obtain rfl := Recorded.eq_of_run_pure h
    intro w hw
    rcases List.mem_append.mp hw with hw | hw
    · obtain rfl := Option.mem_toList.mp hw
      exact ⟨op, List.mem_cons_self, op.rates_of_run hstep⟩
    · obtain ⟨op', hop', hrates⟩ := ih hrest w hw
      exact ⟨op', List.mem_cons_of_mem op hop', hrates⟩

end Runs

/-! ### The tables of ratings -/

namespace Operation

variable {op : Operation} {ops : List Operation}

/-- A step that is warned of adds its risk to the impact, unless its risk is low anyway. -/
theorem risk_le_rollbackRisk? {kind : DependencyKind} (h : op.dependencyKind? = some kind) :
    op.risk ≤ op.rollbackRisk?.getD .low := by
  unfold dependencyKind? at h
  split at h
  case h_5 => cases h
  all_goals
    simp only [risk, rollbackRisk?, *]
    decide

/-- A step that adds to the risk of the impact is destructive and adds its own risk. -/
theorem isDestructive_of_rollbackRisk? {level : RiskLevel} (h : op.rollbackRisk? = some level) :
    op.isDestructive ∧ op.risk = level := by
  unfold rollbackRisk? at h
  split at h
  case h_4 => cases h
  all_goals
    obtain rfl := Option.some.inj h
    simp [isDestructive, risk, *]

theorem rollbackRisk?_le (hop : op ∈ ops) : op.rollbackRisk?.getD .low ≤ (RollbackImpact.of ops).risk := by
  cases hrisk : op.rollbackRisk? with
  | none => exact bot_le
  | some level => exact RiskLevel.le_highest (List.mem_filterMap.mpr ⟨op, hop, hrisk⟩)

/-! ### What is named -/

theorem isDestructive_of_is_drop {kind : ObjectKind} (h : op.is kind .drop)
    (hkind : kind ∈ [.table, .column, .index, .foreignKey]) : op.isDestructive := by
  obtain ⟨rfl, haction⟩ := is_iff.mp h
  simp only [List.mem_cons, List.not_mem_nil, or_false] at hkind
  rcases hkind with hkind | hkind | hkind | hkind <;> simp [isDestructive, hkind, haction]

/-- A step affects its own table. -/
theorem mem_affectedTables (h : op.table ≠ "") : op.table ∈ op.affectedTables := by
  have hown : op.table ∈ [op.table] := List.mem_singleton_self op.table
  simp only [affectedTables, if_neg h]
  split
  · split_ifs
    · exact hown
    · exact List.mem_append_left _ hown
  · exact hown

theorem of_droppedTable? {table : String} (h : op.droppedTable? = some table) :
    op.isDestructive ∧ table = op.table := by
  obtain ⟨hdrop, htable⟩ := Option.ite_none_right_eq_some.mp h
  exact ⟨isDestructive_of_is_drop hdrop (by simp), (Option.some.inj htable).symm⟩

theorem of_droppedColumn? {column : ColumnRef} (h : op.droppedColumn? = some column) :
    op.isDestructive ∧ column ∈ op.affectedColumns := by
  obtain ⟨hdrop, hcolumn⟩ := Option.ite_none_right_eq_some.mp h
  obtain ⟨name, hname, rfl⟩ := Option.map_eq_some_iff.mp hcolumn
  exact ⟨isDestructive_of_is_drop hdrop (by simp), by simp [affectedColumns, hname]⟩

theorem of_droppedObject? {kind : ObjectKind} {object : ObjectRef}
    (hkind : kind ∈ [.table, .column, .index, .foreignKey])
    (h : op.droppedObject? kind = some object) : op.isDestructive ∧ object.table = op.table := by
  obtain ⟨hdrop, hobject⟩ := Option.ite_none_right_eq_some.mp h
  obtain rfl := Option.some.inj hobject
  exact ⟨isDestructive_of_is_drop hdrop hkind, rfl⟩

end Operation

/-- Every destructive step is among the destructive changes. -/
theorem DestructiveChange.of_mem {op : Operation} {ops : List Operation} (hop : op ∈ ops)
    (h : op.isDestructive) : DestructiveChange.of op ∈ destructiveChanges ops :=
  List.mem_map_of_mem (List.mem_filter.mpr ⟨hop, h⟩)

/-- An impact names a table: the table itself is dropped, or an index or a foreign key of it. -/
inductive RollbackImpact.NamesTable (impact : RollbackImpact) (table : String) : Prop where
  | table (h : table ∈ impact.tables)
  | index (name : String) (h : ⟨table, name⟩ ∈ impact.indexes)
  | foreignKey (name : String) (h : ⟨table, name⟩ ∈ impact.foreignKeys)

/-- A table that is named by an impact is the table of a destructive step. -/
theorem RollbackImpact.NamesTable.exists_op {ops : List Operation} {table : String}
    (h : (of ops).NamesTable table) : ∃ op ∈ ops, op.isDestructive ∧ table = op.table := by
  rw [of_eq] at h
  cases h with
  | table h =>
    obtain ⟨op, hop, hdropped⟩ := SortedSet.mem_ofList_filterMap.mp h
    exact ⟨op, hop, op.of_droppedTable? hdropped⟩
  | index name h =>
    obtain ⟨op, hop, hdropped⟩ := SortedSet.mem_ofList_filterMap.mp h
    exact ⟨op, hop, op.of_droppedObject? (by simp) hdropped⟩
  | foreignKey name h =>
    obtain ⟨op, hop, hdropped⟩ := SortedSet.mem_ofList_filterMap.mp h
    exact ⟨op, hop, op.of_droppedObject? (by simp) hdropped⟩

/-! ### The ratings -/

/-- For any steps and every provider: if the warnings are found, none has a risk above that of the impact,
and the risk of the impact is not above the highest of the destructive changes. Every column in the impact is
among the affected columns of a destructive change, and every table that the impact names is, unless its name
is empty, among the affected tables of one. -/
theorem ratings_agree (responder : Responder ε) (ops : List Operation) :
    let impact := RollbackImpact.of ops
    let changes := destructiveChanges ops
    (∀ warnings, (dependencyWarnings responder.provider ops).record.1 = .ok warnings →
      ∀ w ∈ warnings, w.risk ≤ impact.risk) ∧
    impact.risk ≤ .highest (changes.map (·.risk)) ∧
    (∀ column ∈ impact.columns, ∃ change ∈ changes, column ∈ change.affectedColumns) ∧
    ∀ table, impact.NamesTable table → table ≠ "" →
      ∃ change ∈ changes, table ∈ change.affectedTables := by
  intro impact changes
  refine ⟨fun warnings hwarnings w hw => ?_, ?_, fun column hcolumn => ?_, fun table htable hne => ?_⟩
  · have hrun : (dependencyWarnings responder.provider ops).run.run [] = (.ok warnings, _) :=
      Prod.ext hwarnings rfl
    obtain ⟨op, hop, hrates⟩ := exists_rates_of_run hrun w hw
    calc
      w.risk = op.risk := hrates.risk
      _ ≤ op.rollbackRisk?.getD .low := op.risk_le_rollbackRisk? hrates.kind
      _ ≤ impact.risk := op.rollbackRisk?_le hop
  · refine RiskLevel.highest_le_iff.mpr fun level hlevel => ?_
    obtain ⟨op, hop, hrisk⟩ := List.mem_filterMap.mp hlevel
    obtain ⟨hdestructive, rfl⟩ := op.isDestructive_of_rollbackRisk? hrisk
    exact RiskLevel.le_highest (List.mem_map_of_mem (DestructiveChange.of_mem hop hdestructive))
  · have himpact : impact = _ := RollbackImpact.of_eq ops
    rw [himpact] at hcolumn
    obtain ⟨op, hop, hdropped⟩ := SortedSet.mem_ofList_filterMap.mp hcolumn
    obtain ⟨hdestructive, haffected⟩ := op.of_droppedColumn? hdropped
    exact ⟨.of op, DestructiveChange.of_mem hop hdestructive, haffected⟩
  · obtain ⟨op, hop, hdestructive, rfl⟩ := htable.exists_op
    exact ⟨.of op, DestructiveChange.of_mem hop hdestructive, op.mem_affectedTables hne⟩

/-- A provider in which every table exists and is referred to by another one. -/
def alwaysReferenced : Responder String := fun _ question =>
  .ok <| match question with
    | .currentSchema => Snapshot.ofUsers
    | .tableExists _ | .columnExists _ _ => true
    | .tableStructure _ => none
    | .referencingTables _ => ["orders"]

/-- Steps with details that no migration asks for: a column is dropped without a name, and a foreign key of a
table without a name. The first is rated as high without being in the impact. -/
theorem ratings_agree_of_alwaysReferenced :
    let ops : List Operation :=
      [⟨.column, .drop, .down, { table := "posts" }, 3⟩,
        ⟨.foreignKey, .drop, .down, { table := "", columns := ["user_id"] }, 4⟩,
        ⟨.index, .drop, .down, { table := "users", name := some "users_email_index" }, 5⟩]
    ∃ warnings, (dependencyWarnings alwaysReferenced.provider ops).record.1 = .ok warnings ∧
      warnings.map (·.risk) = [.high, .medium, .low] ∧ (RollbackImpact.of ops).columns = ∅ ∧
      (∀ w ∈ warnings, w.risk ≤ (RollbackImpact.of ops).risk) ∧
      ∃ change ∈ destructiveChanges ops, "users" ∈ change.affectedTables := by
  intro ops
  obtain ⟨hwarnings, -, -, htables⟩ := ratings_agree alwaysReferenced ops
  have hnamed : (RollbackImpact.of ops).NamesTable "users" :=
    .index "users_email_index" (by decide)
  exact ⟨_, rfl, rfl, rfl, hwarnings _ rfl, htables "users" hnamed (by decide)⟩

end MigrationPreview
