import MigrationPreview.Proofs.Files.Tree
import MigrationPreview.Proofs.Time.Timestamp
import MigrationPreview.Schema.Store

/-!
# Snapshot files lose nothing

A snapshot that is written to a file is read from it as it was, but for the checksum, which is computed
anew. So a snapshot that was read from any file is, once written, read again without a change.

A field that a snapshot file leaves out has the value for which it is left out, whatever combination of
fields that is, and tables may stand under keys that are not their names.

## Main results

* `LoadedSnapshot.ofText?_fileText`: the text of a snapshot file gives back the snapshot
* `loadSnapshot_system`: what is read from a tree of files
* `snapshotFiles_faithful`: snapshots through files
-/

namespace MigrationPreview

/-! ### Parts of a table -/

instance : FaithfulForm Column where
  Fits _ := True
  decode?_encode {c} _ := by
    refine (Json.bind_fields? (by decide)).trans ?_
    simp
  isWritable_encode {c} _ := Json.isWritable_object (by simp)
  encode_ne_null _ := nofun

@[simp] theorem fits_column (c : Column) : Fits c := trivial

instance : FaithfulForm Index where
  Fits _ := True
  decode?_encode {i} _ := by
    refine (Json.bind_fields? (by decide)).trans ?_
    simp
  isWritable_encode {i} _ := Json.isWritable_object (by simp)
  encode_ne_null _ := nofun

@[simp] theorem fits_index (i : Index) : Fits i := trivial

instance : FaithfulForm ForeignKey where
  Fits _ := True
  decode?_encode {k} _ := by
    refine (Json.bind_fields? (by decide)).trans ?_
    simp
  isWritable_encode {k} _ := Json.isWritable_object (by simp)
  encode_ne_null _ := nofun

@[simp] theorem fits_foreignKey (k : ForeignKey) : Fits k := trivial

/-! ### Tables and snapshots -/

instance : FaithfulForm Table where
  Fits _ := True
  decode?_encode {t} _ := by
    refine (Json.bind_fields? (by decide)).trans ?_
    simp
  isWritable_encode {t} _ := Json.isWritable_object (by simp)
  encode_ne_null _ := nofun

@[simp] theorem fits_table (t : Table) : Fits t := trivial

instance : FaithfulForm Snapshot where
  Fits _ := True
  decode?_encode {s} _ := by
    refine (Json.bind_fields? (by decide)).trans ?_
    simp
  isWritable_encode {s} _ := Json.isWritable_object (by simp)
  encode_ne_null _ := nofun

@[simp] theorem fits_snapshot (s : Snapshot) : Fits s := trivial

/-! ### Files -/

theorem Snapshot.withComputedChecksum_eq {s : Snapshot} (h : s.checksum = computeChecksum s.tables) :
    s.withComputedChecksum = s := by
  rw [withComputedChecksum, ← h]

/-- The text of a snapshot file gives back the snapshot with the checksum of its tables. -/
theorem LoadedSnapshot.ofText?_fileText (s : Snapshot) :
    ofText? s.fileText = some ⟨s.withComputedChecksum, s.checksum⟩ := by
  have hread : (Json.parse s.fileText).bind decode? = some s := decode?_indentedText (fits_snapshot s)
  obtain ⟨value, hvalue, hs⟩ := Option.bind_eq_some_iff.mp hread
  simp [ofText?, hvalue, hs]

/-- Every snapshot that is read has the checksum of its tables. -/
theorem LoadedSnapshot.checksum_of_ofText? {text : String} {loaded : LoadedSnapshot}
    (h : ofText? text = some loaded) :
    loaded.snapshot.checksum = Snapshot.computeChecksum loaded.snapshot.tables := by
  obtain ⟨value, -, h⟩ := Option.bind_eq_some_iff.mp h
  obtain ⟨recorded, -, h⟩ := Option.bind_eq_some_iff.mp h
  obtain rfl := Option.some.inj h
  rfl

section

variable (path : String) (tree : FileTree)

/-- Reading a snapshot from a tree leaves the tree alone. -/
theorem loadSnapshot_system :
    (loadSnapshot FileTree.system path).run tree =
      (match tree.readText path with
        | .error fault => .error (.file path fault)
        | .ok text => (LoadedSnapshot.ofText? text).elim (.error .json) .ok, tree) := by
  have hread : (FileTree.system.readText path).run tree = pure (tree.readText path, tree) := rfl
  rw [loadSnapshot, StateT.run_bind, hread, pure_bind]
  cases tree.readText path with
  | error fault => rfl
  | ok text =>
    cases htext : LoadedSnapshot.ofText? text with
    | none =>
      simp only [htext]
      rfl
    | some loaded =>
      simp only [htext]
      rfl

theorem saveSnapshot_system {tree' : FileTree} {s : Snapshot}
    (h : tree.write path s.fileText = .ok tree') :
    (saveSnapshot FileTree.system path s).run tree = (.ok s.metadata, tree') := by
  have hwrite : (FileTree.system.write path s.fileText).run tree = pure (.ok (), tree') := by
    simp [FileTree.system, FileTree.update, h]
  rw [saveSnapshot, StateT.run_bind, hwrite, pure_bind]
  rfl

/-- Where a file can be written, a snapshot can be saved, and it is loaded from this file. -/
theorem exists_loadSnapshot_of_writable (s : Snapshot) (h : tree.Writable path) :
    ∃ tree', (saveSnapshot FileTree.system path s).run tree = (.ok s.metadata, tree') ∧
      (loadSnapshot FileTree.system path).run tree' =
        (.ok ⟨s.withComputedChecksum, s.checksum⟩, tree') := by
  obtain ⟨tree', hwrite⟩ := h.exists_write s.fileText
  refine ⟨tree', saveSnapshot_system path tree hwrite, ?_⟩
  rw [loadSnapshot_system, FileTree.readText_write hwrite]
  simp only [LoadedSnapshot.ofText?_fileText, Option.elim_some]

theorem checksum_of_loadSnapshot {loaded : LoadedSnapshot}
    (h : ((loadSnapshot FileTree.system path).run tree).1 = .ok loaded) :
    loaded.snapshot.checksum = Snapshot.computeChecksum loaded.snapshot.tables := by
  rw [loadSnapshot_system] at h
  cases htext : tree.readText path with
  | error =>
    rw [htext] at h
    cases h
  | ok text =>
    rw [htext] at h
    cases hloaded : LoadedSnapshot.ofText? text with
    | none =>
      simp only [hloaded] at h
      cases h
    | some loaded' =>
      simp only [hloaded] at h
      obtain rfl := Except.ok.inj h
      exact LoadedSnapshot.checksum_of_ofText? hloaded

end

/-- Snapshot files lose nothing. Wherever a file can be written, every snapshot can be saved and is loaded
again with the checksum of its tables in the place of its own, so unchanged if its own is the checksum of
its tables. And whatever a file holds, the snapshot that is loaded from it has the checksum of its tables,
and it does not change when it is saved and loaded again. -/
theorem snapshotFiles_faithful (path : String) (tree : FileTree) :
    (∀ s : Snapshot, tree.Writable path →
      ∃ tree', (saveSnapshot FileTree.system path s).run tree = (.ok s.metadata, tree') ∧
        (loadSnapshot FileTree.system path).run tree' =
          (.ok ⟨s.withComputedChecksum, s.checksum⟩, tree')) ∧
    (∀ s : Snapshot, s.checksum = Snapshot.computeChecksum s.tables → s.withComputedChecksum = s) ∧
    ∀ loaded, ((loadSnapshot FileTree.system path).run tree).1 = .ok loaded →
      loaded.snapshot.checksum = Snapshot.computeChecksum loaded.snapshot.tables ∧
      ∀ path₁ (tree₁ : FileTree), tree₁.Writable path₁ →
        ∃ tree₂, (saveSnapshot FileTree.system path₁ loaded.snapshot).run tree₁ =
            (.ok loaded.snapshot.metadata, tree₂) ∧
          (loadSnapshot FileTree.system path₁).run tree₂ =
            (.ok ⟨loaded.snapshot, loaded.snapshot.checksum⟩, tree₂) := by
  refine ⟨exists_loadSnapshot_of_writable path tree, fun s => Snapshot.withComputedChecksum_eq,
    fun loaded hloaded => ?_⟩
  have hchecksum := checksum_of_loadSnapshot path tree hloaded
  refine ⟨hchecksum, fun path₁ tree₁ hwritable => ?_⟩
  have hagain := exists_loadSnapshot_of_writable path₁ tree₁ loaded.snapshot hwritable
  rwa [Snapshot.withComputedChecksum_eq hchecksum] at hagain

/-- A snapshot without tables whose checksum is stale. -/
def staleSnapshot : Snapshot where
  capturedAt := ⟨⟨2016, 12, 31, by decide⟩, 86399, 1500000000, by decide, by decide⟩
  schema := "shop"
  tables := ∅
  checksum := "stale"

/-- The stale checksum is corrected when the snapshot is loaded, and the corrected snapshot is the same when
it is saved once more and loaded again. -/
theorem snapshotFiles_faithful_of_stale :
    let corrected := staleSnapshot.withComputedChecksum
    let tree : FileTree := ⟨.directory [], []⟩
    ∃ tree₁ tree₂,
      (saveSnapshot FileTree.system "schema.json" staleSnapshot).run tree =
        (.ok staleSnapshot.metadata, tree₁) ∧
      (loadSnapshot FileTree.system "schema.json").run tree₁ = (.ok ⟨corrected, "stale"⟩, tree₁) ∧
      (saveSnapshot FileTree.system "copy.json" corrected).run tree =
        (.ok corrected.metadata, tree₂) ∧
      (loadSnapshot FileTree.system "copy.json").run tree₂ =
        (.ok ⟨corrected, corrected.checksum⟩, tree₂) ∧
      corrected.withComputedChecksum = corrected := by
  intro corrected tree
  have hwritable : tree.Writable "schema.json" := ⟨"", _, rfl⟩
  have hcopy : tree.Writable "copy.json" := ⟨"", _, rfl⟩
  obtain ⟨tree₁, hsave, hload⟩ := (snapshotFiles_faithful "schema.json" tree).1 staleSnapshot hwritable
  obtain ⟨-, hunchanged, hloaded⟩ := snapshotFiles_faithful "schema.json" tree₁
  obtain ⟨hchecksum, hagain⟩ := hloaded _ (congrArg Prod.fst hload)
  obtain ⟨tree₂, hsave₂, hload₂⟩ := hagain "copy.json" _ hcopy
  exact ⟨tree₁, tree₂, hsave, hload, hsave₂, hload₂, hunchanged _ hchecksum⟩

end MigrationPreview
