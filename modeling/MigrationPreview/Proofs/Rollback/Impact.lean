import Mathlib.Order.BoundedOrder.Basic
import Mathlib.Order.MinMax
import MigrationPreview.Proofs.Collections
import MigrationPreview.Proofs.Details
import MigrationPreview.Rollback.Impact

/-!
# The impact of a rollback is a join

What a rollback drops is collected step by step in four sets, and its risk is the highest of its steps.
So the impact of two rollbacks, one behind the other, is the join of their impacts: it has what one of them
has, and the higher of their risks. Neither the order of the steps nor their repetition matters, and
more steps never make an impact smaller.

The sets and the risk are found separately. For steps that drop what they name, as all steps of a migration
do, the sets determine the risk.

## Main definitions

* `RollbackImpact.Collects`: what is in the sets of an impact
* `RollbackImpact.IsWithin`, `RollbackImpact.join`: impacts are compared and put together
* `RollbackImpact.riskOfSets`: the risk that the sets of an impact call for

## Main results

* `RiskLevel.highest_le_iff`: the highest of some levels is their least upper bound
* `RollbackImpact.collects_of`: an impact collects what its steps drop
* `RollbackImpact.of_append`, `RollbackImpact.of_le_iff`: an impact is the join of the impacts of its steps
* `rollbackImpact_joins`: the laws of the impact of a rollback
-/

namespace MigrationPreview

/-! ### The order of risks -/

namespace RiskLevel

theorem rank_injective : Function.Injective rank := by
  intro a b h
  cases a <;> cases b <;> first | rfl | cases h

instance : LinearOrder RiskLevel where
  le_refl a := Nat.le_refl a.rank
  le_trans _ _ _ h h' := Nat.le_trans h h'
  le_antisymm _ _ h h' := rank_injective (Nat.le_antisymm h h')
  le_total a b := Nat.le_total a.rank b.rank
  toDecidableLE := inferInstance
  toDecidableEq := inferInstance
  max := max

instance : OrderBot RiskLevel where
  bot := low
  bot_le r := Nat.zero_le r.rank

variable {levels : List RiskLevel} {level r : RiskLevel}

theorem foldl_max_le_iff : levels.foldl max level ≤ r ↔ level ≤ r ∧ ∀ l ∈ levels, l ≤ r := by
  induction levels generalizing level with
  | nil => simp
  | cons l levels ih =>
    have hmax : max level l ≤ r ↔ level ≤ r ∧ l ≤ r := max_le_iff
    rw [List.foldl_cons, ih, hmax, List.forall_mem_cons, and_assoc]

/-- The highest of some levels is their least upper bound. -/
theorem highest_le_iff : highest levels ≤ r ↔ ∀ level ∈ levels, level ≤ r :=
  foldl_max_le_iff.trans (and_iff_right bot_le)

theorem le_highest (h : level ∈ levels) : level ≤ highest levels :=
  highest_le_iff.mp le_rfl level h

theorem highest_append (levels levels' : List RiskLevel) :
    highest (levels ++ levels') = highest levels ⊔ highest levels' := by
  refine eq_of_forall_ge_iff fun r => ?_
  rw [sup_le_iff, highest_le_iff, highest_le_iff, highest_le_iff, List.forall_mem_append]

/-- The highest of some levels is found from above. -/
theorem highest_eq (levels : List RiskLevel) : highest levels =
    if critical ∈ levels then critical
    else if high ∈ levels then high
    else if medium ∈ levels then medium
    else low := by
  refine le_antisymm (highest_le_iff.mpr fun level hlevel => ?_) ?_
  · -- a level that is there is not above the first one that is asked for
    cases level <;> split_ifs <;> first | contradiction | decide
  · split_ifs with hcritical hhigh hmedium
    · exact le_highest hcritical
    · exact le_highest hhigh
    · exact le_highest hmedium
    · exact bot_le

end RiskLevel

/-! ### References in their order -/

/-- Two texts that tell all values of a type apart order it without ties. -/
theorem lawfulEqCmp_compareLex {α : Type} {f g : α → String}
    (h : ∀ a b, f a = f b → g a = g b → a = b) :
    Std.LawfulEqCmp (compareLex (compareOn f) (compareOn g)) where
  compare_self := by simp [compareLex, compareOn]
  eq_of_compare {a b} hcompare := by
    obtain ⟨hf, hg⟩ := compareLex_eq_eq.mp hcompare
    exact h a b (Std.LawfulEqCmp.eq_of_compare hf) (Std.LawfulEqCmp.eq_of_compare hg)

instance : Std.LawfulEqOrd ColumnRef :=
  lawfulEqCmp_compareLex fun ⟨_, _⟩ ⟨_, _⟩ htable hcolumn => by
    obtain rfl : _ = _ := htable
    obtain rfl : _ = _ := hcolumn
    rfl

instance : Std.LawfulEqOrd ObjectRef :=
  lawfulEqCmp_compareLex fun ⟨_, _⟩ ⟨_, _⟩ htable hname => by
    obtain rfl : _ = _ := htable
    obtain rfl : _ = _ := hname
    rfl

/-! ### What a step drops -/

namespace Operation

/-- The table that a step drops. -/
def droppedTable? (op : Operation) : Option String :=
  if op.is .table .drop then some op.table else none

/-- The column that a step drops, if it names one. -/
def droppedColumn? (op : Operation) : Option ColumnRef :=
  if op.is .column .drop then op.details.column.map fun column => ⟨op.table, column⟩ else none

/-- The index or the foreign key that a step drops. -/
def droppedObject? (kind : ObjectKind) (op : Operation) : Option ObjectRef :=
  if op.is kind .drop then some ⟨op.table, op.details.name.getD ""⟩ else none

end Operation

namespace RollbackImpact

/-- The step: each set gets what the operation drops of its kind. -/
theorem addDropped_eq (impact : RollbackImpact) (op : Operation) :
    impact.addDropped op = { impact with
      tables := op.droppedTable?.toList.foldl .add impact.tables
      columns := op.droppedColumn?.toList.foldl .add impact.columns
      indexes := (op.droppedObject? .index).toList.foldl .add impact.indexes
      foreignKeys := (op.droppedObject? .foreignKey).toList.foldl .add impact.foreignKeys } := by
  obtain ⟨kind, action, direction, details, line⟩ := op
  cases action with
  | drop =>
    cases kind with
    | column =>
      simp only [addDropped, Operation.droppedColumn?]
      cases details.column <;> rfl
    | _ => rfl
  | _ => cases kind <;> rfl

/-- The run: the sets are filled with what the steps drop. -/
theorem foldl_addDropped (impact : RollbackImpact) (ops : List Operation) :
    ops.foldl addDropped impact = { impact with
      tables := (ops.filterMap (·.droppedTable?)).foldl .add impact.tables
      columns := (ops.filterMap (·.droppedColumn?)).foldl .add impact.columns
      indexes := (ops.filterMap (·.droppedObject? .index)).foldl .add impact.indexes
      foreignKeys := (ops.filterMap (·.droppedObject? .foreignKey)).foldl .add
        impact.foreignKeys } := by
  simp only [List.filterMap_eq_flatMap_toList]
  induction ops generalizing impact with
  | nil => rfl
  | cons op ops ih =>
    rw [List.foldl_cons, ih, addDropped_eq]
    simp only [List.flatMap_cons, List.foldl_append]

theorem of_eq (ops : List Operation) : of ops =
    { tables := .ofList (ops.filterMap (·.droppedTable?))
      columns := .ofList (ops.filterMap (·.droppedColumn?))
      indexes := .ofList (ops.filterMap (·.droppedObject? .index))
      foreignKeys := .ofList (ops.filterMap (·.droppedObject? .foreignKey))
      risk := .highest (ops.filterMap (·.rollbackRisk?)) } := by
  rw [of, foldl_addDropped]
  rfl

/-- An impact has in its sets what some steps drop, and nothing else; its risk is the highest of theirs. -/
structure Collects (impact : RollbackImpact) (ops : List Operation) : Prop where
  tables (table : String) : table ∈ impact.tables ↔ ∃ op ∈ ops, op.is .table .drop ∧ op.table = table
  columns (ref : ColumnRef) : ref ∈ impact.columns ↔
    ∃ op ∈ ops, op.is .column .drop ∧ op.table = ref.table ∧ op.details.column = some ref.column
  indexes (ref : ObjectRef) : ref ∈ impact.indexes ↔
    ∃ op ∈ ops, op.is .index .drop ∧ op.table = ref.table ∧ op.details.name.getD "" = ref.name
  foreignKeys (ref : ObjectRef) : ref ∈ impact.foreignKeys ↔
    ∃ op ∈ ops, op.is .foreignKey .drop ∧ op.table = ref.table ∧ op.details.name.getD "" = ref.name
  risk : impact.risk = .highest (ops.filterMap (·.rollbackRisk?))

theorem droppedObject?_eq_some_iff {kind : ObjectKind} {op : Operation} {ref : ObjectRef} :
    op.droppedObject? kind = some ref ↔
      op.is kind .drop ∧ op.table = ref.table ∧ op.details.name.getD "" = ref.name := by
  obtain ⟨table, name⟩ := ref
  rw [Operation.droppedObject?]
  split <;> simp_all

/-- An impact collects what its steps drop. -/
theorem collects_of (ops : List Operation) : (of ops).Collects ops := by
  rw [of_eq]
  constructor
  case risk => rfl
  case tables => 
    intro table
    rw [SortedSet.mem_ofList_filterMap]
    simp [Operation.droppedTable?]
  case columns =>
    rintro ⟨table, column⟩
    rw [SortedSet.mem_ofList_filterMap]
    simp [Operation.droppedColumn?, and_left_comm]
  case indexes | foreignKeys =>
    intro ref
    rw [SortedSet.mem_ofList_filterMap]
    simp only [droppedObject?_eq_some_iff]

/-! ### The join of impacts -/

open SortedSet

/-- An impact has no more in its sets and no higher risk than another one. -/
structure IsWithin (a b : RollbackImpact) : Prop where
  tables : a.tables ⊆ b.tables
  columns : a.columns ⊆ b.columns
  indexes : a.indexes ⊆ b.indexes
  foreignKeys : a.foreignKeys ⊆ b.foreignKeys
  risk : a.risk ≤ b.risk

/-- What two rollbacks drop together, with the higher of their risks. -/
def join (a b : RollbackImpact) : RollbackImpact where
  tables := a.tables ∪ b.tables
  columns := a.columns ∪ b.columns
  indexes := a.indexes ∪ b.indexes
  foreignKeys := a.foreignKeys ∪ b.foreignKeys
  risk := a.risk ⊔ b.risk

instance : PartialOrder RollbackImpact where
  le := IsWithin
  le_refl _ := ⟨subset_refl _, subset_refl _, subset_refl _, subset_refl _, le_rfl⟩
  le_trans _ _ _ h h' :=
    ⟨subset_trans h.tables h'.tables, subset_trans h.columns h'.columns,
      subset_trans h.indexes h'.indexes, subset_trans h.foreignKeys h'.foreignKeys,
      h.risk.trans h'.risk⟩
  le_antisymm a b h h' := by
    have htables := subset_antisymm h.tables h'.tables
    have hcolumns := subset_antisymm h.columns h'.columns
    have hindexes := subset_antisymm h.indexes h'.indexes
    have hforeignKeys := subset_antisymm h.foreignKeys h'.foreignKeys
    have hrisk := le_antisymm h.risk h'.risk
    cases a
    cases b
    simp_all

instance : SemilatticeSup RollbackImpact where
  sup := join
  le_sup_left _ _ :=
    ⟨subset_union_left, subset_union_left, subset_union_left, subset_union_left, le_sup_left⟩
  le_sup_right _ _ :=
    ⟨subset_union_right, subset_union_right, subset_union_right, subset_union_right, le_sup_right⟩
  sup_le _ _ _ h h' :=
    ⟨union_subset h.tables h'.tables, union_subset h.columns h'.columns,
      union_subset h.indexes h'.indexes, union_subset h.foreignKeys h'.foreignKeys,
      sup_le h.risk h'.risk⟩

theorem of_append (a b : List Operation) : of (a ++ b) = of a ⊔ of b := by
  rw [of_eq, of_eq, of_eq]
  simp only [List.filterMap_append, SortedSet.ofList_append, RiskLevel.highest_append]
  rfl

instance : OrderBot RollbackImpact where
  bot := {}
  bot_le _ := ⟨empty_subset _, empty_subset _, empty_subset _, empty_subset _, bot_le⟩

/-- The impact of some steps is the least one that covers each of them. -/
theorem of_le_iff {ops : List Operation} {impact : RollbackImpact} :
    of ops ≤ impact ↔ ∀ op ∈ ops, of [op] ≤ impact := by
  induction ops with
  | nil => exact iff_of_true bot_le (List.forall_mem_nil _)
  | cons op ops ih =>
    rw [List.forall_mem_cons, ← ih, ← sup_le_iff, ← of_append, List.singleton_append]

/-- Only what the steps are counts, not how often and in which order they are made. -/
theorem of_mono {a b : List Operation} (h : a ⊆ b) : of a ≤ of b :=
  of_le_iff.mpr fun op hop => of_le_iff.mp le_rfl op (h hop)

/-! ### The risk of what is dropped -/

/-- The risk that the sets of an impact call for. Indexes alone call for none. -/
def riskOfSets (impact : RollbackImpact) : RiskLevel :=
  if impact.tables ≠ ∅ then .critical
  else if impact.columns ≠ ∅ then .high
  else if impact.foreignKeys ≠ ∅ then .medium
  else .low

end RollbackImpact

/-- The risk of a well-formed step tells which of the sets it adds to. -/
theorem Operation.rollbackRisk?_eq_some_iff {op : Operation} (h : op.WellFormed) :
    (op.rollbackRisk? = some .critical ↔ op.droppedTable?.isSome) ∧
    (op.rollbackRisk? = some .high ↔ op.droppedColumn?.isSome) ∧
    (op.rollbackRisk? = some .medium ↔ (op.droppedObject? .foreignKey).isSome) := by
  obtain ⟨kind, action, direction, details, line⟩ := op
  -- a column that is dropped is named, so that it is in the set of columns
  cases h with
  | table known =>
    obtain rfl | rfl | rfl := eq_or_eq_or_eq_of_mem known <;>
      simp [rollbackRisk?, droppedTable?, droppedColumn?, droppedObject?, is]
  | setting isSetting =>
    obtain rfl | rfl | rfl := eq_or_eq_or_eq_of_mem isSetting <;>
      simp [rollbackRisk?, droppedTable?, droppedColumn?, droppedObject?, is]
  | _ => simp [rollbackRisk?, droppedTable?, droppedColumn?, droppedObject?, is]

theorem RiskLevel.mem_filterMap_iff {κ : Type} [Ord κ] [Std.TransOrd κ] [Std.LawfulEqOrd κ]
    {ops : List Operation} {level : RiskLevel} {dropped : Operation → Option κ}
    (h : ∀ op ∈ ops, op.rollbackRisk? = some level ↔ (dropped op).isSome) :
    level ∈ ops.filterMap (·.rollbackRisk?) ↔ SortedSet.ofList (ops.filterMap dropped) ≠ ∅ := by
  simp only [Ne, SortedSet.eq_empty_iff, not_forall_not, SortedSet.mem_ofList_filterMap]
  constructor
  · intro hlevel
    obtain ⟨op, hop, hrisk⟩ := List.mem_filterMap.mp hlevel
    obtain ⟨x, hx⟩ := Option.isSome_iff_exists.mp ((h op hop).mp hrisk)
    exact ⟨x, op, hop, hx⟩
  · rintro ⟨x, op, hop, hdropped⟩
    have hsome : (dropped op).isSome := Option.isSome_iff_exists.mpr ⟨x, hdropped⟩
    exact List.mem_filterMap.mpr ⟨op, hop, (h op hop).mpr hsome⟩

namespace RollbackImpact

/-- The sets of well-formed steps determine their risk. -/
theorem risk_eq_riskOfSets {ops : List Operation} (h : ∀ op ∈ ops, op.WellFormed) :
    (of ops).risk = (of ops).riskOfSets := by
  have hsteps op hop := Operation.rollbackRisk?_eq_some_iff (h op hop)
  have hcritical := RiskLevel.mem_filterMap_iff fun op hop => (hsteps op hop).1
  have hhigh := RiskLevel.mem_filterMap_iff fun op hop => (hsteps op hop).2.1
  have hmedium := RiskLevel.mem_filterMap_iff fun op hop => (hsteps op hop).2.2
  rw [of_eq, riskOfSets, RiskLevel.highest_eq]
  simp only [hcritical, hhigh, hmedium]

end RollbackImpact

/-- The laws of the impact of a rollback. For any steps, whatever they are: the impact collects what they drop,
the impact of some steps and others behind them is the join of both impacts, steps that are reordered or
repeated have the same impact, and an impact only grows when steps are added behind. For the steps of `down` of
every migration, the sets determine the risk. -/
theorem rollbackImpact_joins :
    (∀ ops : List Operation, (RollbackImpact.of ops).Collects ops) ∧
    (∀ a b : List Operation, RollbackImpact.of (a ++ b) = (RollbackImpact.of a).join (.of b)) ∧
    (∀ a b : List Operation, (∀ op, op ∈ a ↔ op ∈ b) → RollbackImpact.of a = .of b) ∧
    (∀ a b : List Operation, (RollbackImpact.of a).IsWithin (.of (a ++ b))) ∧
    ∀ source : String,
      let impact := RollbackImpact.of ((Script.parse source).operationsFor .down)
      impact.risk = impact.riskOfSets := by
  refine ⟨RollbackImpact.collects_of, RollbackImpact.of_append, fun a b h => ?_, fun a b => ?_, fun source => ?_⟩
  · have hsubset : a ⊆ b := fun op => (h op).mp
    have hsuperset : b ⊆ a := fun op => (h op).mpr
    exact le_antisymm (RollbackImpact.of_mono hsubset) (RollbackImpact.of_mono hsuperset)
  · exact RollbackImpact.of_mono (List.subset_append_left a b)
  · exact RollbackImpact.risk_eq_riskOfSets fun op => wellFormed_of_mem_operationsFor

/-- A column and its table may be dropped in either order, and the column twice: both are in the impact. -/
theorem rollbackImpact_joins_of_repeated :
    let dropColumn : Operation := ⟨.column, .drop, .down, { table := "users", column := some "email" }, 4⟩
    let dropTable : Operation := ⟨.table, .drop, .down, { table := "users" }, 6⟩
    (∀ op, op ∈ [dropColumn, dropTable] ↔ op ∈ [dropTable, dropColumn, dropColumn]) ∧
    RollbackImpact.of [dropColumn, dropTable] = .of [dropTable, dropColumn, dropColumn] ∧
    RollbackImpact.of [dropColumn, dropTable] =
      { tables := .ofList ["users"], columns := .ofList [⟨"users", "email"⟩], risk := .critical } := by
  intro dropColumn dropTable
  have hsame : ∀ op, op ∈ [dropColumn, dropTable] ↔ op ∈ [dropTable, dropColumn, dropColumn] := by
    intro op
    simp only [List.mem_cons, List.not_mem_nil, or_false, or_self]
    exact or_comm
  exact ⟨hsame, rollbackImpact_joins.2.2.1 _ _ hsame, by decide +kernel⟩

end MigrationPreview
