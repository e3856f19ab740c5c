import MigrationPreview.Proofs.Collections
import MigrationPreview.Schema.Snapshot

/-!
# Coherent snapshots

A snapshot that is read from a file may keep a table under a key that is not its name. One that is made of a
list of tables does not: each table stands under its name, and of several tables with one name the last is
kept. So what is read from the tables in the order of their keys is in the order of their names, and a table
is never among those that refer to it, even if it refers to itself.

## Main definitions

* `Snapshot.IsCoherent`: the tables stand under their names, and the checksum is theirs
* `Snapshot.RefersTo`: a table of a snapshot, under its name, refers to another one

## Main results

* `Snapshot.table?_ofTables`, `Snapshot.isCoherent_ofTables`: snapshots that are made of a list of tables
* `Snapshot.tablesByName_eq_of_perm`: the order of the tables does not matter if their names differ
* `Snapshot.IsCoherent.sorted_referencingTables`, `Snapshot.IsCoherent.mem_referencingTables_iff`: which tables
  refer to a table, and in which order they are listed
-/

namespace MigrationPreview.Snapshot

/-! ### Coherence -/

/-- Every table stands under its name, and the checksum is that of the tables. -/
structure IsCoherent (s : Snapshot) : Prop where
  name_eq : ∀ key t, s.table? key = some t → t.name = key
  checksum_eq : s.checksum = computeChecksum s.tables

section OfTables

variable (capturedAt : Instant) (schema : String) {tables tables' : List Table}

/-- The last table of a name is kept. -/
theorem table?_ofTables (key : String) : (ofTables capturedAt schema tables).table? key =
    (tables.filter (·.name = key)).getLast? := by
  have hfound := SortedMap.get?_ofList (tables.map fun t => (t.name, t)) key
  rw [List.filter_map, List.map_map] at hfound
  exact hfound.trans (by simp [Function.comp_def])

theorem isCoherent_ofTables : (ofTables capturedAt schema tables).IsCoherent where
  name_eq key t ht := by
    rw [table?_ofTables] at ht
    exact of_decide_eq_true (List.mem_filter.mp (List.mem_of_getLast? ht)).2
  checksum_eq := rfl

/-- Tables with different names may be listed in any order. -/
theorem tablesByName_eq_of_perm (hperm : tables.Perm tables') (h : (tables.map Table.name).Nodup) :
    tablesByName tables = tablesByName tables' := by
  refine SortedMap.ofList_eq_of_perm (hperm.map _) ?_
  rwa [List.map_map]

end OfTables

/-! ### References -/

/-- A table of a snapshot has a foreign key that refers to a table, which need not be in the snapshot. -/
def RefersTo (s : Snapshot) (name table : String) : Prop :=
  ∃ t, s.table? name = some t ∧ ∃ key ∈ t.foreignKeys, key.referencedTable = table

namespace IsCoherent

variable {s : Snapshot} (h : s.IsCoherent)

include h

theorem map_name_values : s.tables.values.map Table.name = s.tables.keys := by
  rw [SortedMap.values, SortedMap.keys, List.map_map]
  exact List.map_congr_left fun e he => h.name_eq e.1 e.2 (SortedMap.get?_eq_some_iff.mpr he)

theorem mem_values_iff {t : Table} : t ∈ s.tables.values ↔ s.table? t.name = some t := by
  rw [table?, SortedMap.get?_eq_some_iff, SortedMap.values, List.mem_map]
  constructor
  · rintro ⟨⟨key, t⟩, he, rfl⟩
    have hname : t.name = key := h.name_eq key t (SortedMap.get?_eq_some_iff.mpr he)
    rwa [hname]
  · exact fun ht => ⟨(t.name, t), ht, rfl⟩

/-- The tables that refer to a table are listed by their names, without repetition. -/
theorem sorted_referencingTables (table : String) : (s.referencingTables table).Pairwise (· < ·) := by
  have hkeys : s.tables.keys.Pairwise (· < ·) :=
    List.pairwise_map.mpr (s.tables.sorted.imp compareOfLessAndEq_eq_lt.mp)
  -- they are some of the tables, which are in the order of their names
  have hsub : (s.referencingTables table).Sublist s.tables.keys := by
    rw [← h.map_name_values]
    exact List.filter_sublist.map Table.name
  exact hkeys.sublist hsub

/-- They are the other tables that refer to it. -/
theorem mem_referencingTables_iff {table name : String} :
    name ∈ s.referencingTables table ↔ name ≠ table ∧ s.RefersTo name table := by
  simp only [referencingTables, List.mem_map, List.mem_filter, h.mem_values_iff, Bool.and_eq_true,
    decide_eq_true_eq, List.any_eq_true]
  constructor
  · rintro ⟨t, ⟨ht, hne, hkey⟩, rfl⟩
    exact ⟨hne, t, ht, hkey⟩
  · rintro ⟨hne, t, ht, hkey⟩
    obtain rfl := h.name_eq name t ht
    exact ⟨t, ⟨ht, hne, hkey⟩, rfl⟩

end IsCoherent

end MigrationPreview.Snapshot
