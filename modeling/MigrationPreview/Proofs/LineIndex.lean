import MigrationPreview.Proofs.Details

/-!
# The order of operations and their index by line

The operations of a migration are those of `up`, in the order of their lines, and then those of `down`,
in the order of their lines. The index by line is built up one operation at a time, each put behind what
its line already has. It groups the operations by line: no operation is lost, none is listed twice, and a
line on which both methods stand lists the operations of `up` first.

## Main definitions

* `Operation.summariesOn`: the short forms of the operations of one line
* `Script.IsIndexed`: a script whose operations are ordered and grouped by line

## Main results

* `pairwise_line_operationsFor`: the operations of one direction stand in the order of their lines
* `Script.mem_entries_indexByLine_iff`: the entries of an index by line
* `Script.isIndexed_parse`: every script that is read is ordered and grouped by line
-/

namespace MigrationPreview

variable {direction : Direction} {op : Operation} {ops : List Operation} {n : Nat}

/-! ### The order of operations -/

/-- The step of the order: what is read from the lines behind a line has a later number. -/
theorem le_line_of_mem_operationsOfLines {table : Option String} {number : Nat}
    {lines : List (List Char)} (h : op ∈ operationsOfLines direction table number lines) :
    number ≤ op.line := by
  obtain ⟨index, _, draft, -, -, -, rfl⟩ := exists_line_of_mem_operationsOfLines h
  exact Nat.le_add_right number index

/-- By induction on the lines, operations stand in the order of their lines. -/
theorem pairwise_line_operationsOfLines (table : Option String) (number : Nat)
    (lines : List (List Char)) :
    (operationsOfLines direction table number lines).Pairwise (·.line ≤ ·.line) := by
  induction lines generalizing table number with
  | nil => exact .nil
  | cons raw rest ih =>
    rw [operationsOfLines_cons, List.pairwise_append]
    refine ⟨?_, ih _ _, fun first hfirst later hlater => ?_⟩
    · -- the operations of one line have the same number
      split
      · exact .nil
      · rw [List.pairwise_map]
        exact List.pairwise_of_forall fun _ _ => Nat.le_refl number
    · split at hfirst
      · simp at hfirst
      · obtain ⟨draft, -, rfl⟩ := List.mem_map.mp hfirst
        exact (Nat.le_succ number).trans (le_line_of_mem_operationsOfLines hlater)

theorem pairwise_line_operationsFor (direction : Direction) (source : String) :
    ((Script.parse source).operationsFor direction).Pairwise (·.line ≤ ·.line) := by
  rw [operationsFor_parse, operationsIn]
  split
  · exact pairwise_line_operationsOfLines _ _ _
  · exact .nil

theorem Script.operations_parse (source : String) :
    (parse source).operations =
      (parse source).operationsFor .up ++ (parse source).operationsFor .down := by
  rw [operationsFor_parse, operationsFor_parse]
  rfl

/-! ### The index by line -/

/-- The short forms of the operations on line `n`, in the order of the operations. -/
def Operation.summariesOn (n : Nat) (ops : List Operation) : List Summary :=
  (ops.filter (·.line = n)).map summary

namespace Script

/-- The index with one more operation, which comes last on its line. -/
def indexed (index : SortedMap Nat (List Operation.Summary)) (op : Operation) :
    SortedMap Nat (List Operation.Summary) :=
  index.alter op.line fun known => known.getD [] ++ [op.summary]

theorem get?_indexed (index : SortedMap Nat (List Operation.Summary)) (op : Operation) (n : Nat) :
    (indexed index op).get? n =
      if n = op.line then some ((index.get? n).getD [] ++ [op.summary]) else index.get? n := by
  rw [indexed, SortedMap.get?_alter]
  by_cases hn : n = op.line
  · rw [if_pos hn, if_pos (by rw [hn]; exact Std.ReflCmp.compare_self), hn]
  · rw [if_neg hn, if_neg (mt Std.LawfulEqCmp.eq_of_compare hn)]

/-- The step of the construction: the line of one operation becomes a line of the index. By induction,
so do the lines of all operations. -/
theorem mem_keys_foldl_iff {index : SortedMap Nat (List Operation.Summary)} :
    n ∈ (ops.foldl indexed index).keys ↔ n ∈ index.keys ∨ n ∈ ops.map (·.line) := by
  induction ops generalizing index with
  | nil => simp
  | cons op ops ih =>
    rw [List.foldl_cons, ih, indexed, SortedMap.mem_keys_alter, List.map_cons, List.mem_cons]
    tauto

theorem mem_keys_indexByLine_iff : n ∈ (indexByLine ops).keys ↔ n ∈ ops.map (·.line) := by
  refine mem_keys_foldl_iff.trans (or_iff_right ?_)
  exact List.not_mem_nil

/-- Whatever is listed under a line already, the short forms of further operations follow it. -/
theorem getD_get?_foldl {index : SortedMap Nat (List Operation.Summary)} :
    ((ops.foldl indexed index).get? n).getD [] =
      (index.get? n).getD [] ++ Operation.summariesOn n ops := by
  induction ops generalizing index with
  | nil => simp [Operation.summariesOn]
  | cons op ops ih =>
    rw [List.foldl_cons, ih, get?_indexed, Operation.summariesOn, Operation.summariesOn]
    by_cases hn : n = op.line
    · rw [if_pos hn, Option.getD_some, List.filter_cons_of_pos (by simp [hn]), List.map_cons,
        List.append_assoc, List.singleton_append]
    · rw [if_neg hn, List.filter_cons_of_neg (by simpa using Ne.symm hn)]

/-- The entries of an index by line: the lines that have an operation, each with the short forms of its
operations. -/
theorem mem_entries_indexByLine_iff {summaries : List Operation.Summary} :
    (n, summaries) ∈ (indexByLine ops).entries ↔
      (∃ op ∈ ops, op.line = n) ∧ summaries = Operation.summariesOn n ops := by
  have hkey : ((indexByLine ops).get? n).isSome ↔ ∃ op ∈ ops, op.line = n := by
    rw [← SortedMap.mem_keys_iff, mem_keys_indexByLine_iff, List.mem_map]
  have hvalue : ((indexByLine ops).get? n).getD [] = Operation.summariesOn n ops := getD_get?_foldl
  rw [← SortedMap.get?_eq_some_iff, ← hkey, ← hvalue]
  cases (indexByLine ops).get? n <;> simp [eq_comm]

/-- To list one more short form under a line is to list one more altogether. -/
theorem perm_flatMap_alterEntries (n : Nat) (summary : Operation.Summary)
    (entries : List (Nat × List Operation.Summary)) :
    ((SortedMap.alterEntries n (fun known => known.getD [] ++ [summary]) entries).flatMap
      Prod.snd).Perm (entries.flatMap Prod.snd ++ [summary]) := by
  induction entries with
  | nil => exact .refl _
  | cons entry rest ih =>
    obtain ⟨line, summaries⟩ := entry
    rw [SortedMap.alterEntries]
    split
    · exact List.perm_append_comm
    · simp only [List.flatMap_cons, Option.getD_some, List.append_assoc]
      exact List.perm_append_comm.append_left summaries
    · simp only [List.flatMap_cons, List.append_assoc]
      exact ih.append_left summaries

/-- An index by line lists every operation exactly once. -/
theorem perm_flatten_values_indexByLine (ops : List Operation) :
    (indexByLine ops).values.flatten.Perm (ops.map (·.summary)) := by
  have hrun (index : SortedMap Nat (List Operation.Summary)) :
      ((ops.foldl indexed index).entries.flatMap Prod.snd).Perm
        (index.entries.flatMap Prod.snd ++ ops.map (·.summary)) := by
    induction ops generalizing index with
    | nil => simp
    | cons op ops ih =>
      have hstep := perm_flatMap_alterEntries op.line op.summary index.entries
      have hrun := (ih (indexed index op)).trans (hstep.append_right _)
      rwa [List.append_assoc, List.singleton_append] at hrun
  rw [SortedMap.values, ← List.flatMap_def]
  exact hrun ∅

/-! ### Scripts -/

/-- The operations of a script are ordered, and its index groups them by line. -/
structure IsIndexed (script : Script) : Prop where
  operations_eq : script.operations = script.operationsFor .up ++ script.operationsFor .down
  pairwise_line : ∀ direction, (script.operationsFor direction).Pairwise (·.line ≤ ·.line)
  mem_keys_iff : ∀ n, n ∈ script.lineIndex.keys ↔ ∃ op ∈ script.operations, op.line = n
  mem_entries_iff : ∀ n summaries, (n, summaries) ∈ script.lineIndex.entries ↔
    (∃ op ∈ script.operations, op.line = n) ∧
      summaries = Operation.summariesOn n script.operations
  /-- On a line of both methods the operations of `up` come first. -/
  summariesOn_eq : ∀ n, Operation.summariesOn n script.operations =
    Operation.summariesOn n (script.operationsFor .up) ++
      Operation.summariesOn n (script.operationsFor .down)
  perm_flatten_values : script.lineIndex.values.flatten.Perm (script.operations.map (·.summary))

/-- Every script that is read is ordered and grouped by line. -/
theorem isIndexed_parse (source : String) : (parse source).IsIndexed where
  operations_eq := operations_parse source
  pairwise_line direction := pairwise_line_operationsFor direction source
  mem_keys_iff n := by
    rw [← List.mem_map]
    exact mem_keys_indexByLine_iff
  mem_entries_iff n summaries := mem_entries_indexByLine_iff
  summariesOn_eq n := by
    conv_lhs => rw [operations_parse]
    rw [Operation.summariesOn, List.filter_append, List.map_append]
    rfl
  perm_flatten_values := perm_flatten_values_indexByLine _

/-- Methods on one line share its list. -/
example :
    (parse ("class M \x7b public function up() \x7b Schema::drop('users'); \x7d " ++
      "public function down() \x7b Schema::create('users', fn); \x7d \x7d")).lineIndex.entries =
    [(1, [⟨.table, .drop, .up, "users"⟩, ⟨.table, .create, .down, "users"⟩])] := by
  decide +kernel

end Script

end MigrationPreview
