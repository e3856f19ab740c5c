import Mathlib.Algebra.BigOperators.Group.List.Basic
import MigrationPreview.Diff.Basic

/-!
# The categories of a diff

A diff is built by appending one entry after the other to the category of its kind, and it begins with
all categories present and empty. So every category holds the entries of the operations of its kind, in
their order, and nothing is lost or counted twice.

## Main definitions

* `Snapshot.entry`: the entry of an operation against a snapshot
* `SchemaDiff.Lists`: a diff holds given lists of entries in its categories, and no other category

## Main results

* `SchemaDiff.lists_of`: the categories of a diff
* `SchemaDiff.entries_of`, `SchemaDiff.length_of`: all its entries, and their number
-/

namespace MigrationPreview

/-- The entry of an operation against a snapshot. -/
def Snapshot.entry (s : Snapshot) (op : Operation) : DiffEntry := .of op (s.table? op.table)

namespace SchemaDiff

variable {d : SchemaDiff} {listed : ObjectKind → List DiffEntry}

/-- A diff holds the entries `listed kind` under every kind. -/
def Lists (d : SchemaDiff) (listed : ObjectKind → List DiffEntry) : Prop :=
  d.categories.entries = ObjectKind.all.map fun kind => (kind, listed kind)

theorem lists_empty : empty.Lists fun _ => [] := rfl

/-- The step of the construction: one entry goes behind the others of its kind. -/
theorem Lists.push (h : d.Lists listed) (e : DiffEntry) :
    (d.push e).Lists fun kind => if kind = e.kind then listed kind ++ [e] else listed kind := by
  unfold Lists at h ⊢
  simp only [SchemaDiff.push, SortedMap.alter, h]
  cases e.kind <;> rfl

theorem Lists.foldl (schema : Snapshot) (ops : List Operation) (h : d.Lists listed) :
    (ops.foldl (fun d op => d.push (.of op (schema.table? op.table))) d).Lists fun kind =>
      listed kind ++ (ops.filter (·.kind = kind)).map schema.entry := by
  induction ops generalizing d listed with
  | nil => simpa using h
  | cons op ops ih =>
    have hlisted :
        (fun kind => listed kind ++ ((op :: ops).filter (·.kind = kind)).map schema.entry) =
          fun kind => (if kind = (schema.entry op).kind then listed kind ++ [schema.entry op]
            else listed kind) ++ (ops.filter (·.kind = kind)).map schema.entry := by
      funext kind
      have hkind : (schema.entry op).kind = op.kind := rfl
      by_cases hop : op.kind = kind
      · simp [hkind, hop]
      · simp [hkind, hop, Ne.symm hop]
    rw [hlisted]
    exact ih (h.push (schema.entry op))

theorem lists_of (ops : List Operation) (schema : Snapshot) :
    (of ops schema).Lists fun kind => (ops.filter (·.kind = kind)).map schema.entry := by
  simpa only [of, List.nil_append] using lists_empty.foldl schema ops

theorem Lists.category (h : d.Lists listed) (kind : ObjectKind) :
    d.category kind = listed kind := by
  unfold SchemaDiff.category SortedMap.get?
  rw [h]
  cases kind <;> rfl

theorem Lists.entries (h : d.Lists listed) : d.entries = ObjectKind.all.flatMap listed := by
  unfold SchemaDiff.entries SortedMap.values
  rw [h, List.map_map, List.flatMap]
  rfl

theorem length_entries (d : SchemaDiff) : d.length = d.entries.length := by
  rw [SchemaDiff.length, SchemaDiff.entries, List.length_flatten, List.sum_eq_foldl, List.foldl_map]

/-- The entries of a diff, kind by kind and each kind in the order of the operations. -/
theorem entries_of (ops : List Operation) (schema : Snapshot) :
    (of ops schema).entries =
      ObjectKind.all.flatMap fun kind => (ops.filter (·.kind = kind)).map schema.entry :=
  (lists_of ops schema).entries

/-- Every operation has its entry, and there are no others. -/
theorem mem_entries_of_iff {ops : List Operation} {schema : Snapshot} {e : DiffEntry} :
    e ∈ (of ops schema).entries ↔ ∃ op ∈ ops, schema.entry op = e := by
  rw [entries_of, List.mem_flatMap]
  constructor
  · rintro ⟨kind, -, hmem⟩
    obtain ⟨op, hop, rfl⟩ := List.mem_map.mp hmem
    exact ⟨op, (List.mem_filter.mp hop).1, rfl⟩
  · rintro ⟨op, hop, rfl⟩
    exact ⟨op.kind, Enumerated.mem_all _, List.mem_map_of_mem (by simpa using hop)⟩

theorem length_of (ops : List Operation) (schema : Snapshot) :
    (of ops schema).length = ops.length := by
  rw [length_entries, entries_of, List.length_flatMap]
  simp only [List.length_map]
  induction ops with
  | nil => decide
  | cons op ops ih =>
    rw [List.length_cons, ← ih]
    cases hkind : op.kind <;> simp [ObjectKind.all, Enumerated.all, hkind] <;> omega

end SchemaDiff

end MigrationPreview
