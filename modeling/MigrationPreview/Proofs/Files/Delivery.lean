import Mathlib.Data.List.Infix
import MigrationPreview.Proofs.Files.Tree

/-!
# Delivering a text

A text is delivered to a path of a tree by making the directories around the path and writing the file. It is
read from the path afterwards, and no other file is touched on the way. Making directories touches no file at
all, even where it wanders up and down through directories that it has made before.

## Main definitions

* `FileNode.fileAt?`: the bytes of the file at a place
* `FileNode.SameFiles`, `FileTree.SameFiles`: trees that differ in new directories only
* `FileTree.prepare`, `FileTree.Receives`: whether a text can be delivered to a path
* `FileTree.DeliveredTo`: a text is at its path, and all other files are as they were

## Main results

* `FileTree.sameFiles_createDirectories`: making directories touches no file
* `FileTree.deliveredTo_write`: a written text is delivered
-/

namespace MigrationPreview

namespace FileNode

/-! ### Files at places -/

/-- The bytes of the file that some names lead to. -/
def fileAt? (names : List String) (root : FileNode) : Option ByteArray :=
  match at? names root with
  | some (file bytes) => some bytes
  | _ => none

section

variable {root : FileNode} {names place : List String} {name : String}
  {entries : List (String × FileNode)}

/-- Only below the place where a node is put can there be other files than before. -/
theorem fileAt?_put_of_not_prefix (node : FileNode) (h : at? names root = some (directory entries))
    (hplace : ¬ names ++ [name] <+: place) :
    fileAt? place (put node (names ++ [name]) root) = fileAt? place root := by
  induction names generalizing root place with
  | nil =>
    obtain rfl := Option.some.inj h
    cases place with
    | nil => rfl
    | cons step place =>
      have hne : step ≠ name := by
        rintro rfl
        exact hplace ⟨place, rfl⟩
      simp [fileAt?, put, at?, lookup_setEntry, hne]
  | cons first names ih =>
    cases root with
    | file => cases h
    | directory around =>
      obtain ⟨child, hchild, hbelow⟩ := Option.bind_eq_some_iff.mp h
      cases place with
      | nil => rfl
      | cons step place =>
        by_cases hstep : step = first
        · subst hstep
          have hinner := ih hbelow fun hprefix => hplace (List.cons_prefix_cons.mpr ⟨rfl, hprefix⟩)
          simpa [fileAt?, put, at?, lookup_setEntry, hchild] using hinner
        · simp [fileAt?, put, at?, lookup_setEntry, hstep]

/-- There are no files below a name that stands for no directory. -/
theorem fileAt?_append_of_lookup (h : at? names root = some (directory entries))
    (hfree : ∀ inner, entries.lookup name ≠ some (directory inner)) {below : List String}
    (hbelow : below = [] → entries.lookup name = none) : fileAt? (names ++ [name] ++ below) root = none := by
  rw [fileAt?, at?_append, at?_append_name h]
  cases hchild : entries.lookup name with
  | none => rfl
  | some child =>
    cases child with
    | directory inner => exact absurd hchild (hfree inner)
    | file bytes =>
      cases below with
      | nil => exact absurd (hbelow rfl) (by simp [hchild])
      | cons => rfl

/-- A file that is put where no directory is changes no other file. -/
theorem fileAt?_put_file (bytes : ByteArray) (h : at? names root = some (directory entries))
    (hfree : ∀ inner, entries.lookup name ≠ some (directory inner)) (hplace : place ≠ names ++ [name]) :
    fileAt? place (put (file bytes) (names ++ [name]) root) = fileAt? place root := by
  by_cases hprefix : names ++ [name] <+: place
  · obtain ⟨below, rfl⟩ := hprefix
    obtain ⟨step, below, rfl⟩ := List.exists_cons_of_ne_nil (l := below) (by simpa using hplace)
    rw [fileAt?_append_of_lookup h hfree fun hnil => absurd hnil (List.cons_ne_nil step below), fileAt?,
      at?_append, at?_put _ h]
    rfl
  · exact fileAt?_put_of_not_prefix _ h hprefix

/-- A directory that is put where nothing is changes no file. -/
theorem fileAt?_put_directory (h : at? names root = some (directory entries))
    (hnone : entries.lookup name = none) :
    fileAt? place (put (directory []) (names ++ [name]) root) = fileAt? place root := by
  by_cases hprefix : names ++ [name] <+: place
  · obtain ⟨below, rfl⟩ := hprefix
    rw [fileAt?_append_of_lookup h (by simp [hnone]) fun _ => hnone, fileAt?, at?_append, at?_put _ h]
    cases below <;> rfl
  · exact fileAt?_put_of_not_prefix _ h hprefix

end

/-! ### Making directories -/

/-- The files of a tree, and at least its directories. -/
structure SameFiles (root root' : FileNode) : Prop where
  directories : KeepsDirectories root root'
  files : ∀ place, fileAt? place root' = fileAt? place root

section

variable {root root' root'' : FileNode} {entries : List (String × FileNode)} {name : String}

theorem SameFiles.refl (root : FileNode) : SameFiles root root where
  directories _ entries h := ⟨entries, h⟩
  files _ := rfl

theorem KeepsDirectories.trans (h : KeepsDirectories root root') (h' : KeepsDirectories root' root'') :
    KeepsDirectories root root'' := fun place entries hplace => by
  obtain ⟨entries', hplace'⟩ := h place entries hplace
  exact h' place entries' hplace'

theorem SameFiles.trans (h : SameFiles root root') (h' : SameFiles root' root'') :
    SameFiles root root'' where
  directories := h.directories.trans h'.directories
  files place := (h'.files place).trans (h.files place)

/-- A walk that fails at the step behind a directory misses a name there. -/
theorem lookup_eq_none_of_walk {here : FileNode} {above : List FileNode} {steps : List String}
    {fault : FileFault} (hwalk : walk here above steps = .ok (directory entries))
    (h : walk here above (steps ++ [name]) = .error fault) :
    name ∉ ["", ".", ".."] ∧ entries.lookup name = none := by
  obtain ⟨fault', hsteps, -⟩ | ⟨here', above', hsteps, hrest⟩ := walk_append here above steps
  · rw [hwalk] at hsteps
    cases hsteps
  · obtain rfl := Except.ok.inj (hwalk.symm.trans hsteps)
    rw [hrest, walk] at h
    split_ifs at h with hdot hup
    · cases h
    · cases h
    · refine ⟨by simpa [or_assoc] using not_or.mpr ⟨hdot, hup⟩, ?_⟩
      cases hchild : entries.lookup name with
      | none => rfl
      | some child =>
        rw [hchild] at h
        cases h

/-- The step of making directories: one is made where a walk from a directory that is there finds
nothing. -/
theorem sameFiles_put_directory {before : List String} {step : String} {fault : FileFault}
    (hbefore : walk root [] before = .ok (directory entries))
    (h : walk root [] (before ++ [step]) = .error fault) :
    let made := put (directory []) (canonical [] (before ++ [step])) root
    SameFiles root made ∧ walk made [] (before ++ [step]) = .ok (directory []) := by
  obtain ⟨hname, hnone⟩ := lookup_eq_none_of_walk hbefore h
  rw [canonical_append_name hname]
  have hentries := at?_of_walk .root hbefore
  have hkeeps : KeepsDirectories root (put (directory []) (canonical [] before ++ [step]) root) :=
    keepsDirectories_put (directory []) hentries (by simp [hnone])
  refine ⟨⟨hkeeps, fun place => fileAt?_put_directory hentries hnone⟩, ?_⟩
  refine walk_append_name hname hkeeps .root .root hbefore ?_
  rw [canonical_append_name hname]
  exact at?_put (directory []) hentries

/-- Making directories touches no file, whether it comes to an end or fails on the way. -/
theorem sameFiles_createAll {made : Bool} {before : List String}
    (hbefore : walk root [] before = .ok (directory entries)) (steps : List String) :
    SameFiles root (root.createAll made before steps).2 := by
  induction steps generalizing root made before entries with
  | nil => exact .refl root
  | cons step steps ih =>
    rw [createAll]
    split
    · next hwalk => exact ih hwalk
    · exact .refl root
    · next hwalk =>
      obtain ⟨hsame, hmade⟩ := sameFiles_put_directory hbefore hwalk
      exact hsame.trans (ih hmade)
    · exact .refl root

end

end FileNode

namespace FileTree

section

variable {tree tree' : FileTree} {path : String}

/-- The files of a tree, and at least its directories; paths begin where they began. -/
structure SameFiles (tree tree' : FileTree) : Prop where
  nodes : tree.root.SameFiles tree'.root
  workingDirectory : tree'.workingDirectory = tree.workingDirectory

theorem SameFiles.refl (tree : FileTree) : SameFiles tree tree where
  nodes := .refl tree.root
  workingDirectory := rfl

/-- Making directories touches no file. -/
theorem sameFiles_createDirectories (tree : FileTree) (path : String) :
    SameFiles tree (tree.createDirectories path).2 := by
  rw [createDirectories]
  split_ifs
  · exact .refl tree
  split
  · exact .refl tree
  · exact .refl tree
  · exact .refl tree
  · next hstart => exact ⟨FileNode.sameFiles_createAll hstart (Path.components path), rfl⟩

end

/-! ### Deliveries -/

/-- Makes the directories around a path. -/
def prepare (tree : FileTree) (path : String) : Except FileFault Unit × FileTree :=
  match Path.parent? path with
  | none | some "" => (.ok (), tree)
  | some around => tree.createDirectories around

/-- Whether a text can be delivered to a path. -/
def Receives (tree : FileTree) (path : String) : Prop :=
  ∃ prepared, tree.prepare path = (.ok (), prepared) ∧ prepared.Writable path

/-- A text is at its path, and nothing else has changed but for new directories. -/
structure DeliveredTo (tree : FileTree) (path text : String) (tree' : FileTree) : Prop where
  readText : tree'.readText path = .ok text
  workingDirectory : tree'.workingDirectory = tree.workingDirectory
  directories : tree.root.KeepsDirectories tree'.root
  file : FileNode.fileAt? (tree.namesOf path) tree'.root = some text.toUTF8
  others : ∀ place, place ≠ tree.namesOf path →
    FileNode.fileAt? place tree'.root = FileNode.fileAt? place tree.root

section

variable {tree tree' prepared : FileTree} {path text : String}

theorem sameFiles_prepare {result : Except FileFault Unit} (h : tree.prepare path = (result, prepared)) :
    SameFiles tree prepared := by
  have hsame : SameFiles tree (tree.prepare path).2 := by
    rw [prepare]
    split
    case h_3 around _ _ => exact sameFiles_createDirectories tree around
    all_goals exact .refl tree
  rwa [h] at hsame

/-- A text that is written behind the preparation is delivered. -/
theorem deliveredTo_write (hprepare : tree.prepare path = (.ok (), prepared))
    (hwrite : prepared.write path text = .ok tree') : DeliveredTo tree path text tree' := by
  have hsame := sameFiles_prepare hprepare
  have hread := readText_write hwrite
  obtain ⟨-, ⟨front, name, entries, hsteps, hname, hwalk, hfree⟩, rfl⟩ := eq_withNode_of_write hwrite
  have hentries := FileNode.at?_of_walk .root hwalk
  have hnames : prepared.namesOf path = FileNode.canonical [] front ++ [name] := by
    rw [namesOf, hsteps, FileNode.canonical_append_name hname]
  have hpath : tree.namesOf path = prepared.namesOf path := by
    simp only [namesOf, steps, start, hsame.workingDirectory]
  have hkeeps := FileNode.keepsDirectories_put (.file text.toUTF8) hentries hfree
  refine ⟨hread, hsame.workingDirectory, ?_, ?_, fun place hplace => ?_⟩
  · rw [withNode, hnames]
    exact hsame.nodes.directories.trans hkeeps
  · rw [hpath, withNode, hnames, FileNode.fileAt?, FileNode.at?_put _ hentries]
  · rw [hpath, hnames] at hplace
    rw [withNode, hnames]
    exact (FileNode.fileAt?_put_file _ hentries hfree hplace).trans (hsame.nodes.files place)

end

end FileTree

end MigrationPreview
