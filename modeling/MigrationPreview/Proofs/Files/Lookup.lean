import Mathlib.Data.String.Basic
import Mathlib.Order.Bounds.Basic
import MigrationPreview.Files.Lookup
import MigrationPreview.Proofs.Files.Tree
import MigrationPreview.Proofs.Text

/-!
# Which migration is found

A migration is looked up in three ways, one after the other: as a path, as a name in the directory of
migrations, and as a part of a name there. The last way leads to the least of the fitting names, so it
does not matter in which order the directory is listed. A directory that is missing has no names, and one
that cannot be read is listed as if it had none.

What counts in the directory are the regular files directly in it. Their paths are put together from text,
so it has to be shown that the path of a name leads to the node that the directory has under this name.

## Main definitions

* `FileTree.systemListing`: a tree as a file system, with its directories listed in some way
* `FileTree.IsCandidate`: a name that a part of it may stand for
* `FileTree.HoldsFile`: a regular file lies directly in a directory
* `FileTree.Finds`: what a migration is found as

## Main results

* `leastName?_eq_some_iff`: the least name is the least
* `FileTree.isFile_join_iff`: the files of a directory by their paths
* `FileTree.exists_run_findMigration`: what a search comes to
* `findMigration_priority`: the three ways in their order, whatever the order of the names
-/

namespace MigrationPreview

/-! ### The least of some names -/

theorem isLeast_foldl (first : String) (names : List String) :
    IsLeast {n | n ∈ first :: names}
      (names.foldl (fun least n => if n < least then n else least) first) := by
  induction names generalizing first with
  | nil => simp [IsLeast, lowerBounds]
  | cons name names ih =>
    obtain ⟨hmem, hle⟩ := ih (if name < first then name else first)
    rw [List.foldl_cons]
    refine ⟨?_, fun n hn => ?_⟩
    · rcases List.mem_cons.mp hmem with heq | hmem
      · rw [heq]
        split_ifs <;> simp
      · exact List.mem_cons_of_mem _ (List.mem_cons_of_mem _ hmem)
    · -- the smaller of the first two names is a bound for both
      have hbound := hle List.mem_cons_self
      rcases List.mem_cons.mp hn with rfl | hn
      · refine hbound.trans ?_
        split_ifs with hlt
        · exact hlt.le
        · exact le_rfl
      rcases List.mem_cons.mp hn with rfl | hn
      · refine hbound.trans ?_
        split_ifs with hlt
        · exact le_rfl
        · exact not_lt.mp hlt
      · exact hle (List.mem_cons_of_mem _ hn)

theorem leastName?_eq_some_iff {names : List String} {name : String} :
    leastName? names = some name ↔ IsLeast {n | n ∈ names} name := by
  cases names with
  | nil =>
    constructor
    · nofun
    · rintro ⟨hmem, -⟩
      cases hmem
  | cons first names =>
    rw [leastName?, Option.some_inj]
    constructor
    · rintro rfl
      exact isLeast_foldl first names
    · intro h
      exact (isLeast_foldl first names).unique h

theorem leastName?_eq_none_iff {names : List String} : leastName? names = none ↔ names = [] := by
  cases names with
  | nil => exact ⟨fun _ => rfl, fun _ => rfl⟩
  | cons => exact ⟨nofun, nofun⟩

/-! ### Steps with a known end -/

section

variable {σ α β : Type} {s s' : σ}

theorem run_bind_of_eq {step : StateM σ α} {a : α} (h : step.run s = (a, s')) (next : α → StateM σ β) :
    (step >>= next).run s = (next a).run s' := by
  rw [StateT.run_bind, h]
  rfl

/-- Tests that leave the state alone keep what they say yes to. -/
theorem run_filterM {test : α → StateM σ Bool} {fits : α → Bool}
    (h : ∀ a, (test a).run s = (fits a, s)) (as : List α) :
    (as.filterM test).run s = (as.filter fits, s) := by
  have hkept (kept : List α) :
      (as.filterAuxM test kept).run s = ((as.filter fits).reverse ++ kept, s) := by
    induction as generalizing kept with
    | nil => rfl
    | cons a as ih =>
      rw [List.filterAuxM, run_bind_of_eq (h a), ih]
      cases hfits : fits a <;> simp [hfits]
  rw [List.filterM, run_bind_of_eq (hkept []), List.append_nil, List.reverse_reverse]
  rfl

end

namespace FileTree

/-! ### Files in directories -/

section

variable {tree : FileTree} {dir name : String}

/-- What the names in a directory can be. -/
structure IsName (name : String) : Prop where
  notMem : name ∉ ["", ".", ".."]
  noSlash : '/' ∉ name.toList

/-- A walk to a name passes the directory that has the name. -/
theorem walk_append_name_eq_ok_iff (hname : IsName name) {here node : FileNode} {above : List FileNode}
    {steps : List String} :
    here.walk above (steps ++ [name]) = .ok node ↔
      ∃ entries, here.walk above steps = .ok (.directory entries) ∧ entries.lookup name = some node := by
  have hproper := hname.notMem
  simp only [List.mem_cons, List.not_mem_nil, or_false, not_or] at hproper
  obtain ⟨fault, hsteps, hfault⟩ | ⟨here', above', hsteps, hrest⟩ := FileNode.walk_append here above steps
  · simp [hfault, hsteps]
  · rw [hrest, hsteps]
    cases here' with
    | file => simp [FileNode.walk]
    | directory entries => cases hchild : entries.lookup name <;> simp [FileNode.walk, hproper, hchild]

/-- A slash at the end changes nothing about a directory. -/
theorem walk_append_empty_eq_ok_iff {here : FileNode} {above : List FileNode} {steps : List String}
    {entries : List (String × FileNode)} :
    here.walk above (steps ++ [""]) = .ok (.directory entries) ↔
      here.walk above steps = .ok (.directory entries) := by
  obtain ⟨fault, hsteps, hfault⟩ | ⟨here', above', hsteps, hrest⟩ := FileNode.walk_append here above steps
  · rw [hfault, hsteps]
  · rw [hrest, hsteps]
    cases here' <;> simp [FileNode.walk]

theorem pathFault?_eq_none_iff {path : String} :
    pathFault? path = none ↔ '\x00' ∉ path.toList ∧ path ≠ "" ∧ path.utf8ByteSize < 4096 := by
  unfold pathFault?
  split_ifs with hnull hempty hlong
  · simp [hnull]
  · simp [hempty]
  · simp [hlong]
  · simpa [hnull, hempty] using hlong

/-- The beginning of a path that the operating system takes is taken as well. -/
theorem pathFault?_of_append {rest : String} (hdir : dir ≠ "") (h : pathFault? (dir ++ rest) = none) :
    pathFault? dir = none := by
  obtain ⟨hnull, -, hlong⟩ := pathFault?_eq_none_iff.mp h
  rw [String.toList_append, List.mem_append, not_or] at hnull
  rw [String.utf8ByteSize_append] at hlong
  exact pathFault?_eq_none_iff.mpr ⟨hnull.1, hdir, by omega⟩

/-- The path of a name in a directory is the path of the directory, perhaps a slash, and the name. -/
theorem exists_join_eq (hname : IsName name) (hdir : dir ≠ "") :
    ∃ steps, Path.steps (Path.join dir name) = steps ++ [name] ∧
      (Path.steps dir = steps ∨ Path.steps dir = steps ++ [""]) ∧
      ∃ rest, Path.join dir name = dir ++ rest := by
  have hrelative : Path.isAbsolute name = false := by
    rw [Path.isAbsolute, decide_eq_false_iff_not]
    intro hhead
    exact hname.noSlash (List.mem_of_mem_head? hhead)
  have hone : name.toList.splitOn '/' = [name.toList] := List.splitOn_eq_singleton hname.noSlash
  unfold Path.join
  simp only [hrelative, hdir, if_false, Bool.false_eq_true]
  split_ifs with hslash
  · -- the directory brings its slash along
    obtain ⟨front, hfront⟩ : ∃ front, dir.toList = front ++ ['/'] :=
      List.getLast?_eq_some_iff.mp hslash
    refine ⟨Path.steps (String.ofList front), ?_, .inr ?_, name, rfl⟩
    · simp [Path.steps, String.toList_append, hfront, List.splitOn_append_cons_self, hone]
    · simp [Path.steps, hfront, List.splitOn_append_cons_self]
  · refine ⟨Path.steps dir, ?_, .inl rfl, "/" ++ name, String.append_assoc ..⟩
    simp [Path.steps, String.toList_append, List.splitOn_append_cons_self, hone]

/-- A regular file of a given name lies directly in a directory, and its path is one that the operating
system takes. -/
structure HoldsFile (tree : FileTree) (dir name : String) : Prop where
  exists_file : ∃ entries bytes, tree.find dir = .ok (.directory entries) ∧
    entries.lookup name = some (.file bytes)
  pathFault?_eq : pathFault? (Path.join dir name) = none

theorem isFile_iff {path : String} : tree.isFile path ↔ ∃ bytes, tree.find path = .ok (.file bytes) := by
  unfold isFile
  cases tree.find path with
  | error fault => simp
  | ok node => cases node <;> simp

/-- A path that is found is one that the operating system takes, and leads where its steps lead. -/
theorem find_eq_ok_iff {path : String} {node : FileNode} :
    tree.find path = .ok node ↔ pathFault? path = none ∧ tree.root.walk [] (tree.steps path) = .ok node := by
  rw [find]
  cases pathFault? path <;> simp

/-- The path of a name in a directory names a regular file if there is one in the directory itself. -/
theorem isFile_join_iff (hname : IsName name) (hdir : dir ≠ "") :
    tree.isFile (Path.join dir name) ↔ tree.HoldsFile dir name := by
  obtain ⟨steps, hjoined, hsteps, rest, hrest⟩ := exists_join_eq hname hdir
  -- the path begins where that of the directory begins
  have hstart : tree.start (Path.join dir name) = tree.start dir := by
    obtain ⟨c, cs, hcs⟩ := List.exists_cons_of_ne_nil (l := dir.toList) (by simpa using hdir)
    simp [start, Path.isAbsolute, hrest, String.toList_append, hcs]
  have hwalk {entries : List (String × FileNode)} :
      tree.root.walk [] (tree.steps dir) = .ok (.directory entries) ↔
        tree.root.walk [] (tree.start dir ++ steps) = .ok (.directory entries) := by
    rcases hsteps with heq | heq
    · rw [FileTree.steps, heq]
    · rw [FileTree.steps, heq, ← List.append_assoc]
      exact walk_append_empty_eq_ok_iff
  have hjoin : tree.steps (Path.join dir name) = tree.start dir ++ steps ++ [name] := by
    rw [FileTree.steps, hstart, hjoined, List.append_assoc]
  rw [isFile_iff]
  constructor
  · rintro ⟨bytes, hfind⟩
    obtain ⟨hfault, hnode⟩ := find_eq_ok_iff.mp hfind
    rw [hjoin] at hnode
    obtain ⟨entries, hentries, hfile⟩ := (walk_append_name_eq_ok_iff hname).mp hnode
    have hfault' : pathFault? dir = none := pathFault?_of_append hdir (hrest ▸ hfault)
    exact ⟨⟨entries, bytes, find_eq_ok_iff.mpr ⟨hfault', hwalk.mpr hentries⟩, hfile⟩, hfault⟩
  · rintro ⟨⟨entries, bytes, hentries, hfile⟩, hfault⟩
    refine ⟨bytes, find_eq_ok_iff.mpr ⟨hfault, ?_⟩⟩
    rw [hjoin]
    exact (walk_append_name_eq_ok_iff hname).mpr
      ⟨entries, hwalk.mp (find_eq_ok_iff.mp hentries).2, hfile⟩

end

/-! ### Searches -/

/-- The file system of a tree in which directories are listed in some way: with their names in any order,
or without any names where they cannot be read. -/
def systemListing (list : FileTree → String → List String) : FileSystem (StateM FileTree) :=
  { system with list := fun path => return list (← get) path }

theorem systemListing_list : systemListing list = system := rfl

/-- A name of a listed directory that the argument may stand for: it contains the argument, and its path
names a regular file. -/
structure IsCandidate (tree : FileTree) (names : List String) (dir argument name : String) : Prop where
  mem : name ∈ names
  isFile : tree.isFile (Path.join dir name)
  isInfix : argument.toList <:+: name.toList

/-- What a migration is found as if its directory is listed with the given names. -/
inductive Finds (tree : FileTree) (names : List String) (dir argument : String) :
    Except Failure String → Prop where
  | itself (h : tree.isFile argument) : Finds tree names dir argument (.ok argument)
  | named (hitself : ¬ tree.isFile argument) (h : tree.isFile (Path.join dir argument)) :
      Finds tree names dir argument (.ok (Path.join dir argument))
  | least {name : String} (hitself : ¬ tree.isFile argument)
      (hnamed : ¬ tree.isFile (Path.join dir argument))
      (h : IsLeast {n | tree.IsCandidate names dir argument n} name) :
      Finds tree names dir argument (.ok (Path.join dir name))
  | missing (hitself : ¬ tree.isFile argument) (hnamed : ¬ tree.isFile (Path.join dir argument))
      (h : ∀ name, ¬ tree.IsCandidate names dir argument name) :
      Finds tree names dir argument (.error (.migrationNotFound argument))

section

variable {tree : FileTree} {names names' : List String} {dir argument : String}
  {outcome outcome' : Except Failure String}

/-- Nothing is known about the directory but which candidates it has. -/
theorem Finds.congr (h : tree.Finds names dir argument outcome)
    (hnames : ∀ name, tree.IsCandidate names dir argument name ↔ tree.IsCandidate names' dir argument name) :
    tree.Finds names' dir argument outcome := by
  cases h with
  | itself h => exact .itself h
  | named hitself h => exact .named hitself h
  | least hitself hnamed h =>
    refine .least hitself hnamed ?_
    simpa only [hnames] using h
  | missing hitself hnamed h => exact .missing hitself hnamed fun name hname => h name ((hnames name).mpr hname)

theorem Finds.unique (h : tree.Finds names dir argument outcome)
    (h' : tree.Finds names dir argument outcome') : outcome = outcome' := by
  cases h with
  | itself h =>
    cases h' with
    | itself => rfl
    | named hitself | least hitself | missing hitself => exact absurd h hitself
  | named hitself h =>
    cases h' with
    | itself h' => exact absurd h' hitself
    | named => rfl
    | least _ hnamed | missing _ hnamed => exact absurd h hnamed
  | least hitself hnamed h =>
    cases h' with
    | itself h' => exact absurd h' hitself
    | named _ h' => exact absurd h' hnamed
    | least _ _ h' => rw [h.unique h']
    | missing _ _ h' => exact absurd h.1 (h' _)
  | missing hitself hnamed h =>
    cases h' with
    | itself h' => exact absurd h' hitself
    | named _ h' => exact absurd h' hnamed
    | least _ _ h' => exact absurd h'.1 (h _)
    | missing => rfl

theorem Finds.isFile {path : String} (h : tree.Finds names dir argument (.ok path)) : tree.isFile path := by
  cases h with
  | itself h => exact h
  | named _ h => exact h
  | least _ _ h => exact h.1.isFile

theorem Finds.eq_migrationNotFound {failure : Failure}
    (h : tree.Finds names dir argument (.error failure)) : failure = .migrationNotFound argument := by
  cases h
  rfl

theorem Finds.eq_error_iff (h : tree.Finds names dir argument outcome) :
    outcome = .error (.migrationNotFound argument) ↔
      ¬ tree.isFile argument ∧ ¬ tree.isFile (Path.join dir argument) ∧
        ∀ name, ¬ tree.IsCandidate names dir argument name := by
  constructor
  · rintro rfl
    cases h with
    | missing hitself hnamed h => exact ⟨hitself, hnamed, h⟩
  · rintro ⟨hitself, hnamed, hnone⟩
    exact h.unique (.missing hitself hnamed hnone)

/-- A search comes to what the migration is found as, and leaves the tree as it is. -/
theorem exists_run_findMigration (tree : FileTree) (list : FileTree → String → List String)
    (dir argument : String) :
    ∃ outcome, (findMigration (systemListing list) dir argument).run tree = (outcome, tree) ∧
      tree.Finds (list tree dir) dir argument outcome := by
  -- no step of the search changes the tree, so each is its result with the tree as it was
  have hrun (path : String) :
      ((systemListing list).isFile path).run tree = (tree.isFile path, tree) := rfl
  have hlist : ((systemListing list).list dir).run tree = (list tree dir, tree) := rfl
  have htest (name : String) :
      (do
        let isFile ← (systemListing list).isFile (Path.join dir name)
        return Text.contains argument.toList name.toList && isFile : StateM FileTree Bool).run tree =
      (Text.contains argument.toList name.toList && tree.isFile (Path.join dir name), tree) := rfl
  have hmem (name : String) :
      name ∈ (list tree dir).filter (fun name =>
        Text.contains argument.toList name.toList && tree.isFile (Path.join dir name)) ↔
      tree.IsCandidate (list tree dir) dir argument name := by
    rw [List.mem_filter, Bool.and_eq_true, Text.contains_iff_isInfix]
    constructor
    · rintro ⟨hmem, hinfix, hfile⟩
      exact ⟨hmem, hfile, hinfix⟩
    · rintro ⟨hmem, hfile, hinfix⟩
      exact ⟨hmem, hinfix, hfile⟩
  rw [findMigration, run_bind_of_eq (hrun argument)]
  cases hitself : tree.isFile argument with
  | true => exact ⟨_, rfl, .itself hitself⟩
  | false =>
    rw [if_neg Bool.false_ne_true, run_bind_of_eq (hrun _)]
    cases hnamed : tree.isFile (Path.join dir argument) with
    | true => exact ⟨_, rfl, .named (by simp [hitself]) hnamed⟩
    | false =>
      rw [if_neg Bool.false_ne_true, run_bind_of_eq hlist, run_bind_of_eq (run_filterM htest _)]
      cases hleast : leastName? _ with
      | some name =>
        refine ⟨_, rfl, .least (by simp [hitself]) (by simp [hnamed]) ?_⟩
        simpa only [hmem] using leastName?_eq_some_iff.mp hleast
      | none =>
        refine ⟨_, rfl, .missing (by simp [hitself]) (by simp [hnamed]) fun name hname => ?_⟩
        rw [leastName?_eq_none_iff] at hleast
        rw [← hmem, hleast] at hname
        cases hname

end

section

variable {tree : FileTree} {names : List String} {dir argument name : String}

theorem mem_list_iff : name ∈ tree.list dir ↔
    ∃ entries, tree.find dir = .ok (.directory entries) ∧ name ∈ entries.map Prod.fst := by
  unfold list
  cases tree.find dir with
  | error fault => simp
  | ok node => cases node <;> simp

/-- If a directory is listed with its own names, the candidates are the regular files directly in it. -/
theorem isCandidate_iff (hname : IsName name) (hnames : ∀ name, name ∈ names ↔ name ∈ tree.list dir) :
    tree.IsCandidate names dir argument name ↔
      tree.HoldsFile dir name ∧ argument.toList <:+: name.toList := by
  have hdir {entries : List (String × FileNode)} (h : tree.find dir = .ok (.directory entries)) :
      dir ≠ "" := by
    rintro rfl
    cases h
  constructor
  · rintro ⟨hmem, hfile, hinfix⟩
    obtain ⟨entries, hentries, -⟩ := mem_list_iff.mp ((hnames name).mp hmem)
    exact ⟨(isFile_join_iff hname (hdir hentries)).mp hfile, hinfix⟩
  · rintro ⟨hholds, hinfix⟩
    obtain ⟨entries, bytes, hentries, hlookup⟩ := hholds.exists_file
    have hmem : name ∈ entries.map Prod.fst := by
      obtain ⟨front, back, rfl, -⟩ := List.lookup_eq_some_iff.mp hlookup
      simp
    exact ⟨(hnames name).mpr (mem_list_iff.mpr ⟨entries, hentries, hmem⟩),
      (isFile_join_iff hname (hdir hentries)).mpr hholds, hinfix⟩

end

end FileTree

/-- A migration is found as the first of three: the argument itself, the file of this name in the directory,
and the file there with the least name that contains the argument. It is missing exactly if there is none of
them, and this is the only way to fail. What is found is a regular file. Nothing else in the directory
matters, nor do the order and the number of times in which its files are listed; and if they are listed as
they are, the candidates are the regular files directly in the directory. -/
theorem findMigration_priority (tree : FileTree) (list : FileTree → String → List String)
    (dir argument : String) :
    ∃ outcome, (findMigration (FileTree.systemListing list) dir argument).run tree = (outcome, tree) ∧
      (∀ outcome', tree.Finds (list tree dir) dir argument outcome' ↔ outcome' = outcome) ∧
      (outcome = .error (.migrationNotFound argument) ↔
        ¬ tree.isFile argument ∧ ¬ tree.isFile (Path.join dir argument) ∧
          ∀ name, ¬ tree.IsCandidate (list tree dir) dir argument name) ∧
      (∀ failure, outcome = .error failure → failure = .migrationNotFound argument) ∧
      (∀ path, outcome = .ok path → tree.isFile path) ∧
      (∀ list' : FileTree → String → List String,
        (∀ name, tree.isFile (Path.join dir name) → (name ∈ list' tree dir ↔ name ∈ list tree dir)) →
        (findMigration (FileTree.systemListing list') dir argument).run tree = (outcome, tree)) ∧
      ((∀ name, name ∈ list tree dir ↔ name ∈ tree.list dir) → ∀ name, FileTree.IsName name →
        (tree.IsCandidate (list tree dir) dir argument name ↔
          tree.HoldsFile dir name ∧ argument.toList <:+: name.toList)) := by
  obtain ⟨outcome, hrun, hfinds⟩ := FileTree.exists_run_findMigration tree list dir argument
  refine ⟨outcome, hrun, fun outcome' => ⟨fun h => h.unique hfinds, fun h => h ▸ hfinds⟩,
    hfinds.eq_error_iff, ?_, ?_, ?_, fun hnames name hname => FileTree.isCandidate_iff hname hnames⟩
  · rintro failure rfl
    exact hfinds.eq_migrationNotFound
  · rintro path rfl
    exact hfinds.isFile
  · intro list' hfiles
    obtain ⟨outcome', hrun', hfinds'⟩ := FileTree.exists_run_findMigration tree list' dir argument
    have hcandidates (name : String) : tree.IsCandidate (list' tree dir) dir argument name ↔
        tree.IsCandidate (list tree dir) dir argument name := by
      constructor
      · rintro ⟨hmem, hfile, hinfix⟩
        exact ⟨(hfiles name hfile).mp hmem, hfile, hinfix⟩
      · rintro ⟨hmem, hfile, hinfix⟩
        exact ⟨(hfiles name hfile).mpr hmem, hfile, hinfix⟩
    rw [hrun', (hfinds'.congr hcandidates).unique hfinds]

/-- The directory with the least name is passed over, and the directory may be given by its path from the
root. -/
example : ((findMigration FileTree.system "/app/m" "users").run ⟨.directory [("app", .directory
    [("m", .directory [("3_users.php", .file .empty), ("1_users.php", .directory []),
      ("2_users.php", .file .empty)])])], ["app"]⟩).1 = .ok "/app/m/2_users.php" := by
  decide +kernel

end MigrationPreview
