import MigrationPreview.Proofs.Preview.Dialogue
import MigrationPreview.Proofs.Schema.Coherence

/-!
# Tables that are referred to

A rollback that drops a table breaks the foreign keys of the tables that refer to it. Over a snapshot the
simulation always succeeds, and it warns of nothing else as critical: each critical warning is about a table
of the snapshot that is dropped and referred to, and names the tables that refer to it.

## Main definitions

* `Operation.DropsReferenced`: a step drops a table of a snapshot to which others refer
* `Snapshot.WarnsOfDrops`: the warnings are critical for these steps and for no other

## Main results

* `Operation.exists_warning`, `exists_warnings`: the warnings of a step and of a run of steps
* `ofTables_coherent`: snapshots of a list of tables, the tables that refer to each other, and the warnings
-/

namespace MigrationPreview

/-! ### Critical warnings -/

/-- A step drops a table that is in a snapshot and to which other tables refer. -/
def Operation.DropsReferenced (op : Operation) (s : Snapshot) : Prop :=
  op.is .table .drop ∧ s.hasTable op.table ∧ s.referencingTables op.table ≠ []

instance (op : Operation) (s : Snapshot) : Decidable (op.DropsReferenced s) :=
  inferInstanceAs (Decidable (_ ∧ _ ∧ _))

/-- The tables that are dropped although others refer to them, in the order of the steps, each with the
tables that refer to it. -/
def Snapshot.brokenBy (s : Snapshot) (ops : List Operation) : List (String × List String) :=
  (ops.filter (·.DropsReferenced s)).map fun op => (op.table, s.referencingTables op.table)

/-- The tables of the critical warnings, each with the tables that the warning names. -/
def criticalTables (warnings : List DependencyWarning) : List (String × List String) :=
  (warnings.filter (·.risk = .critical)).map fun w => (w.table, w.referencingTables)

theorem criticalTables_append (warnings warnings' : List DependencyWarning) :
    criticalTables (warnings ++ warnings') = criticalTables warnings ++ criticalTables warnings' := by
  simp [criticalTables]

theorem Snapshot.brokenBy_append (s : Snapshot) (ops ops' : List Operation) :
    s.brokenBy (ops ++ ops') = s.brokenBy ops ++ s.brokenBy ops' := by
  simp [brokenBy]

theorem Snapshot.brokenBy_singleton_of_not {s : Snapshot} {op : Operation} (h : ¬ op.DropsReferenced s) :
    s.brokenBy [op] = [] := by
  simp [brokenBy, h]

/-- The warnings about some steps are critical exactly for the steps that drop a table to which others
refer. -/
structure Snapshot.WarnsOfDrops (s : Snapshot) (down : List Operation) (warnings : List DependencyWarning) :
    Prop where
  /-- The critical warnings are about these steps, one by one, and name the tables that refer. -/
  criticalTables_eq : criticalTables warnings = s.brokenBy down
  /-- A table that is dropped is warned of if it is in the snapshot and others refer to it. -/
  warned_iff : ∀ op ∈ down, op.is .table .drop →
    ((∃ w ∈ warnings, w.risk = .critical ∧ w.table = op.table) ↔
      s.hasTable op.table ∧ s.referencingTables op.table ≠ [])

/-- It is enough that the tables of the critical warnings are the right ones. -/
theorem Snapshot.WarnsOfDrops.of_eq {s : Snapshot} {down : List Operation}
    {warnings : List DependencyWarning} (h : criticalTables warnings = s.brokenBy down) :
    s.WarnsOfDrops down warnings := by
  refine ⟨h, fun op hop hdrop => ⟨?_, ?_⟩⟩
  · rintro ⟨w, hw, hrisk, htable⟩
    have hmem : (w.table, w.referencingTables) ∈ s.brokenBy down :=
      h ▸ List.mem_map_of_mem (List.mem_filter.mpr ⟨hw, decide_eq_true hrisk⟩)
    obtain ⟨op', hop', heq⟩ := List.mem_map.mp hmem
    -- some step drops the same table, perhaps not this one
    have hsame : op'.table = op.table := (congrArg Prod.fst heq).trans htable
    have hdrops : op'.DropsReferenced s := of_decide_eq_true (List.mem_filter.mp hop').2
    rw [← hsame]
    exact hdrops.2
  · intro hreferenced
    have hmem : (op.table, s.referencingTables op.table) ∈ criticalTables warnings :=
      h ▸ List.mem_map_of_mem (List.mem_filter.mpr ⟨hop, decide_eq_true ⟨hdrop, hreferenced⟩⟩)
    obtain ⟨w, hw, heq⟩ := List.mem_map.mp hmem
    obtain ⟨hw, hrisk⟩ := List.mem_filter.mp hw
    exact ⟨w, hw, of_decide_eq_true hrisk, congrArg Prod.fst heq⟩

/-! ### Steps of a rollback -/

section Provider

variable {m : Type → Type} [Monad m] [LawfulMonad m] (s : Snapshot)

/-- The warning about a table that is dropped. -/
theorem exists_tableDropWarning {op : Operation} (hdrop : op.is .table .drop) :
    ∃ warning : Option DependencyWarning,
      tableDropWarning? (s.provider : Provider m) op.table = pure warning ∧
      criticalTables warning.toList = s.brokenBy [op] := by
  have hexists : (s.provider : Provider m) (.tableExists op.table) = pure (s.hasTable op.table) := rfl
  have hreferencing : (s.provider : Provider m) (.referencingTables op.table) =
      pure (s.referencingTables op.table) := rfl
  unfold tableDropWarning?
  rw [hexists, pure_bind, hreferencing, pure_bind]
  cases hthere : s.hasTable op.table with
  | false =>
    have hnot : ¬ op.DropsReferenced s := fun hdrops => absurd hdrops.2.1 (by simp [hthere])
    exact ⟨none, rfl, (Snapshot.brokenBy_singleton_of_not hnot).symm⟩
  | true =>
    cases hnames : s.referencingTables op.table with
    | nil =>
      have hnot : ¬ op.DropsReferenced s := fun hdrops => hdrops.2.2 hnames
      exact ⟨none, rfl, (Snapshot.brokenBy_singleton_of_not hnot).symm⟩
    | cons name names =>
      have hdrops : op.DropsReferenced s := ⟨hdrop, hthere, by simp [hnames]⟩
      refine ⟨_, rfl, ?_⟩
      simp [criticalTables, Snapshot.brokenBy, hdrops, hnames]

/-- The step: whatever is dropped, only the warning about a table is critical. -/
theorem Operation.exists_warning (op : Operation) : ∃ warning : Option DependencyWarning,
    op.dependencyWarning? (s.provider : Provider m) = pure warning ∧
      criticalTables warning.toList = s.brokenBy [op] := by
  by_cases hdrop : op.is .table .drop
  · obtain ⟨hkind, haction⟩ := is_iff.mp hdrop
    have hstep : op.dependencyWarning? (s.provider : Provider m) = tableDropWarning? s.provider op.table := by
      simp only [dependencyWarning?, hkind, haction]
    rw [hstep]
    exact exists_tableDropWarning s hdrop
  · have hnot : ¬ op.DropsReferenced s := fun hdrops => hdrop hdrops.1
    rw [Snapshot.brokenBy_singleton_of_not hnot]
    unfold dependencyWarning?
    split
    case h_4 hkind haction => exact absurd (by simp [is, hkind, haction]) hdrop
    all_goals exact ⟨_, rfl, rfl⟩

/-- The run: by induction on the steps, whose warnings are listed one behind the other. -/
theorem exists_warnings (ops : List Operation) : ∃ warnings : List DependencyWarning,
    dependencyWarnings (s.provider : Provider m) ops = pure warnings ∧ s.WarnsOfDrops ops warnings := by
  induction ops with
  | nil => exact ⟨[], rfl, .of_eq rfl⟩
  | cons op ops ih =>
    obtain ⟨warning, hstep, hcritical⟩ := op.exists_warning (m := m) s
    obtain ⟨warnings, hrun, hwarns⟩ := ih
    refine ⟨warning.toList ++ warnings, ?_, .of_eq ?_⟩
    · rw [dependencyWarnings, hstep, pure_bind, hrun, pure_bind]
    · calc
        _ = criticalTables warning.toList ++ criticalTables warnings := criticalTables_append ..
        _ = s.brokenBy [op] ++ s.brokenBy ops := by rw [hcritical, hwarns.criticalTables_eq]
        _ = s.brokenBy (op :: ops) := (s.brokenBy_append [op] ops).symm

/-- A snapshot answers every question, so the simulation of a rollback always succeeds. -/
theorem exists_simulateRollback_eq (dialect : Dialect) (source : String) :
    ∃ warnings, (simulateRollback s.provider dialect source : m Rollback) =
        pure (.of dialect ((Script.parse source).operationsFor .down) warnings) ∧
      s.WarnsOfDrops ((Script.parse source).operationsFor .down) warnings := by
  obtain ⟨warnings, hrun, hwarns⟩ := exists_warnings (m := m) s ((Script.parse source).operationsFor .down)
  refine ⟨warnings, ?_, hwarns⟩
  simp only [simulateRollback_eq, hrun, pure_bind]

end Provider

/-! ### Snapshots of a list of tables -/

/-- Every snapshot of a list of tables is coherent. Of several tables with one name the last is kept, and
where the names differ neither the order of the tables nor the time or the name of the schema has an influence
on the tables and the checksum. For every name, which need not be that of a table, the tables that refer to it
are listed in ascending order, without the table itself. And for every migration the simulation of its
rollback over the snapshot succeeds and warns of the tables that are dropped and referred to. -/
theorem ofTables_coherent {ε : Type} (capturedAt : Instant) (schema : String) (tables : List Table) :
    let s := Snapshot.ofTables capturedAt schema tables
    s.IsCoherent ∧
    (∀ key, s.table? key = (tables.filter (·.name = key)).getLast?) ∧
    (∀ capturedAt' schema' tables', tables.Perm tables' → (tables.map Table.name).Nodup →
      (Snapshot.ofTables capturedAt' schema' tables').tables = s.tables ∧
      (Snapshot.ofTables capturedAt' schema' tables').checksum = s.checksum) ∧
    (∀ table, (s.referencingTables table).Pairwise (· < ·) ∧
      ∀ name, name ∈ s.referencingTables table ↔ name ≠ table ∧ s.RefersTo name table) ∧
    ∀ dialect source, ∃ warnings, (simulateRollback s.provider dialect source : Except ε Rollback) =
        .ok (.of dialect ((Script.parse source).operationsFor .down) warnings) ∧
      s.WarnsOfDrops ((Script.parse source).operationsFor .down) warnings := by
  intro s
  have hcoherent : s.IsCoherent := Snapshot.isCoherent_ofTables capturedAt schema
  refine ⟨hcoherent, Snapshot.table?_ofTables capturedAt schema, ?_, fun table => ?_, ?_⟩
  · intro capturedAt' schema' tables' hperm hnodup
    have htables := Snapshot.tablesByName_eq_of_perm hperm hnodup
    exact ⟨htables.symm, congrArg Snapshot.computeChecksum htables.symm⟩
  · exact ⟨hcoherent.sorted_referencingTables table, fun _ => hcoherent.mem_referencingTables_iff⟩
  · exact exists_simulateRollback_eq s

/-- A blog in which the users refer to themselves, and the posts and the comments to the users. -/
def blogTables : List Table :=
  [{ name := "users", columns := []
     foreignKeys := [{ name := "users_mentor", columns := ["mentor_id"], referencedTable := "users" }] },
    { name := "posts", columns := []
      foreignKeys := [{ name := "posts_user", columns := ["user_id"], referencedTable := "users" }] },
    { name := "comments", columns := []
      foreignKeys := [{ name := "comments_user", columns := ["user_id"], referencedTable := "users" }] }]

/-- The tables are listed in another order. The users are dropped twice, and no table but the users is
referred to. -/
theorem ofTables_coherent_of_blog :
    let s := Snapshot.ofTables Snapshot.ofUsers.capturedAt "public" blogTables
    (Snapshot.ofTables Snapshot.ofUsers.capturedAt "public" blogTables.reverse).tables = s.tables ∧
      s.referencingTables "users" = ["comments", "posts"] ∧ s.referencingTables "posts" = [] ∧
      ∃ warnings, (simulateRollback s.provider .postgres (String.ofList droppedTwice) :
          Except Failure Rollback) =
          .ok (.of .postgres ((Script.parse (String.ofList droppedTwice)).operationsFor .down) warnings) ∧
        criticalTables warnings = [("users", ["comments", "posts"]), ("users", ["comments", "posts"])] ∧
        ∃ w ∈ warnings, w.risk = .critical ∧ w.table = "users" := by
  intro s
  obtain ⟨-, -, hperm, -, hsimulation⟩ := ofTables_coherent (ε := Failure) Snapshot.ofUsers.capturedAt
    "public" blogTables
  obtain ⟨warnings, hrun, hwarns⟩ := hsimulation .postgres (String.ofList droppedTwice)
  rw [operationsFor_droppedTwice] at hwarns
  obtain ⟨htables, -⟩ := hperm Snapshot.ofUsers.capturedAt "public" blogTables.reverse
    (List.reverse_perm _).symm (by decide)
  refine ⟨htables, by decide +kernel, by decide +kernel, warnings, hrun, ?_, ?_⟩
  · rw [hwarns.criticalTables_eq]
    decide +kernel
  · exact (hwarns.warned_iff _ List.mem_cons_self rfl).mpr ⟨by decide +kernel, by decide +kernel⟩

end MigrationPreview
