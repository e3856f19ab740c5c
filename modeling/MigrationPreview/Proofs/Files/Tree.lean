import Mathlib.Data.List.Basic
import MigrationPreview.Files.Tree

/-!
# Reading what was written

A text that was written to a path of a tree is read from this path afterwards. The steps of a path may
wander through directories that the written file does not lie in, so it does not suffice that the file is
there: all directories of the tree have to be there still, since the path is walked once more, in the
changed tree.

## Main definitions

* `FileNode.at?`: the node that some names lead to, without dots
* `FileNode.Along`: a stack of nodes holds the directories around a place
* `FileNode.KeepsDirectories`: every directory below a root is one below another root
* `FileNode.IsTarget`, `FileTree.Writable`: what it takes to write a file

## Main results

* `FileNode.at?_put`, `FileNode.keepsDirectories_put`: what is where after a change
* `FileTree.exists_names_of_write`, `FileTree.Writable.exists_write`: whether a file can be written depends
  on the tree and the path alone
* `FileTree.readText_write`: a written text is read back
-/

namespace MigrationPreview

namespace FileNode

/-! ### Places -/

/-- The node that some names lead to. -/
def at? : List String → FileNode → Option FileNode
  | [], node => some node
  | name :: names, directory entries => (entries.lookup name).bind (at? names)
  | _ :: _, file _ => none

theorem at?_append (names names' : List String) (root : FileNode) :
    at? (names ++ names') root = (at? names root).bind (at? names') := by
  induction names generalizing root with
  | nil => rfl
  | cons name names ih =>
    cases root with
    | file => rfl
    | directory entries =>
      simp only [List.cons_append, at?, Option.bind_assoc]
      exact Option.bind_congr fun child _ => ih child

/-- What a directory has under a name. -/
theorem at?_append_name {names : List String} {root : FileNode} {entries : List (String × FileNode)}
    (h : at? names root = some (directory entries)) (name : String) :
    at? (names ++ [name]) root = entries.lookup name := by
  rw [at?_append, h, Option.bind_some]
  cases hchild : entries.lookup name <;> simp [at?, hchild]

theorem lookup_cons_eq (name n : String) (node : FileNode) (entries : List (String × FileNode)) :
    ((name, node) :: entries).lookup n = if n = name then some node else entries.lookup n := by
  by_cases h : n = name
  · simp [h]
  · rw [List.lookup_cons, beq_false_of_ne h, if_neg h]

theorem lookup_setEntry (name n : String) (node : FileNode) (entries : List (String × FileNode)) :
    (setEntry name node entries).lookup n = if n = name then some node else entries.lookup n := by
  induction entries with
  | nil => rw [setEntry, lookup_cons_eq]
  | cons entry entries ih =>
    obtain ⟨known, old⟩ := entry
    rw [setEntry]
    by_cases hknown : known = name
    · rw [if_pos hknown, hknown, lookup_cons_eq, lookup_cons_eq]
      split_ifs <;> rfl
    · rw [if_neg hknown, lookup_cons_eq, lookup_cons_eq, ih]
      by_cases h : n = known
      · have hne : n ≠ name := fun heq => hknown (h.symm.trans heq)
        rw [if_pos h, if_neg hne, if_pos h]
      · rw [if_neg h, if_neg h]

/-- A node that is put into a directory is found there. -/
theorem at?_put {names : List String} {name : String} {root : FileNode}
    {entries : List (String × FileNode)} (node : FileNode) (h : at? names root = some (directory entries)) :
    at? (names ++ [name]) (put node (names ++ [name]) root) = some node := by
  induction names generalizing root with
  | nil =>
    obtain rfl := Option.some.inj h
    simp [put, at?, lookup_setEntry]
  | cons step names ih =>
    cases root with
    | file => cases h
    | directory around =>
      obtain ⟨child, hchild, hbelow⟩ := Option.bind_eq_some_iff.mp h
      simp [put, at?, lookup_setEntry, hchild, ih hbelow]

/-- Every directory of a tree is a directory of another tree as well. -/
def KeepsDirectories (root root' : FileNode) : Prop :=
  ∀ names entries, at? names root = some (directory entries) →
    ∃ entries', at? names root' = some (directory entries')

/-- A node that takes the place of no directory leaves all directories where they are. -/
theorem keepsDirectories_put {names : List String} {name : String} {root : FileNode}
    {entries : List (String × FileNode)} (node : FileNode) (h : at? names root = some (directory entries))
    (hfree : ∀ inner, entries.lookup name ≠ some (directory inner)) :
    KeepsDirectories root (put node (names ++ [name]) root) := by
  induction names generalizing root with
  | nil =>
    obtain rfl := Option.some.inj h
    intro place inner hplace
    cases place with
    | nil => exact ⟨_, rfl⟩
    | cons step place =>
      obtain ⟨child, hchild, hbelow⟩ := Option.bind_eq_some_iff.mp hplace
      have hne : step ≠ name := by
        rintro rfl
        -- the old node of this name is no directory, so nothing lies below it
        cases child with
        | directory below => exact hfree below hchild
        | file => cases place <;> cases hbelow
      refine ⟨inner, ?_⟩
      simp [put, at?, lookup_setEntry, hne, hchild, hbelow]
  | cons first names ih =>
    cases root with
    | file => cases h
    | directory around =>
      obtain ⟨child, hchild, hbelow⟩ := Option.bind_eq_some_iff.mp h
      intro place inner hplace
      cases place with
      | nil => exact ⟨_, rfl⟩
      | cons step place =>
        obtain ⟨next, hnext, hinner⟩ := Option.bind_eq_some_iff.mp hplace
        -- only below the first of the names has anything changed
        by_cases hstep : step = first
        · subst hstep
          obtain rfl := Option.some.inj (hchild.symm.trans hnext)
          obtain ⟨inner', hinner'⟩ := ih hbelow place inner hinner
          refine ⟨inner', ?_⟩
          simp [put, at?, lookup_setEntry, hchild, hinner']
        · refine ⟨inner, ?_⟩
          simp [put, at?, lookup_setEntry, hstep, hnext, hinner]

/-! ### Walks -/

/-- A stack holds the nodes from a place up to the root. The names of the place are given in reverse. -/
inductive Along (root : FileNode) : List String → FileNode → List FileNode → Prop where
  | root : Along root [] root []
  | step {kept : List String} {entries : List (String × FileNode)} {above : List FileNode}
      {name : String} {child : FileNode} (h : Along root kept (directory entries) above)
      (hchild : entries.lookup name = some child) :
      Along root (name :: kept) child (directory entries :: above)

section

variable {root root' here here' node : FileNode} {kept steps : List String} {above above' : List FileNode}
  {entries : List (String × FileNode)} {name : String}

theorem Along.at? (h : Along root kept here above) : at? kept.reverse root = some here := by
  induction h with
  | root => rfl
  | step h hchild ih =>
    rw [List.reverse_cons, at?_append, ih, Option.bind_some]
    simp [FileNode.at?, hchild]

/-- One level up are the nodes of the place around, and the root lies in itself. -/
theorem Along.up (h : Along root kept here above) :
    Along root kept.tail (above.headD here) above.tail := by
  cases h with
  | root => exact .root
  | step h _ => exact h

/-- A walk goes from a directory to what it holds under a name. -/
theorem walk_name (hname : name ∉ ["", ".", ".."]) (hchild : entries.lookup name = some node)
    (above : List FileNode) (rest : List String) :
    walk (directory entries) above (name :: rest) = walk node (directory entries :: above) rest := by
  simp only [List.mem_cons, List.not_mem_nil, or_false, not_or] at hname
  simp [walk, hname, hchild]

/-- Where a walk ends. -/
theorem at?_of_walk (hstack : Along root kept here above) (hwalk : walk here above steps = .ok node) :
    FileNode.at? (canonical kept steps) root = some node := by
  induction steps generalizing kept here above with
  | nil =>
    obtain rfl := Except.ok.inj hwalk
    exact hstack.at?
  | cons step steps ih =>
    cases here with
    | file => cases hwalk
    | directory entries =>
      rw [walk] at hwalk
      rw [canonical]
      by_cases hdot : step = "" ∨ step = "."
      · rw [if_pos hdot] at hwalk ⊢
        exact ih hstack hwalk
      rw [if_neg hdot] at hwalk ⊢
      by_cases hup : step = ".."
      · rw [if_pos hup] at hwalk ⊢
        exact ih hstack.up hwalk
      · rw [if_neg hup] at hwalk ⊢
        cases hchild : entries.lookup step with
        | none =>
          rw [hchild] at hwalk
          cases hwalk
        | some child =>
          rw [hchild] at hwalk
          exact ih (.step hstack hchild) hwalk

/-- A walk goes on from where its first steps lead to, or ends with their fault. -/
theorem walk_append (here : FileNode) (above : List FileNode) (steps : List String) :
    (∃ fault, walk here above steps = .error fault ∧
        ∀ rest, walk here above (steps ++ rest) = .error fault) ∨
      ∃ here' above', walk here above steps = .ok here' ∧
        ∀ rest, walk here above (steps ++ rest) = walk here' above' rest := by
  induction steps generalizing here above with
  | nil => exact .inr ⟨here, above, rfl, fun _ => rfl⟩
  | cons step steps ih =>
    simp only [List.cons_append]
    cases here with
    | file => exact .inl ⟨_, rfl, fun _ => rfl⟩
    | directory entries =>
      simp only [walk]
      split_ifs
      · exact ih _ _
      · exact ih _ _
      · cases entries.lookup step with
        | none => exact .inl ⟨_, rfl, fun _ => rfl⟩
        | some child => exact ih _ _

/-- A walk through a file leads to no directory. -/
theorem exists_entries_of_walk (hwalk : walk here above steps = .ok (directory entries)) :
    ∃ inner, here = directory inner := by
  cases here with
  | file => cases steps <;> cases hwalk
  | directory inner => exact ⟨inner, rfl⟩

theorem Along.at?_append_name (h : Along root kept (directory entries) above) (name : String) :
    FileNode.at? (kept.reverse ++ [name]) root = entries.lookup name :=
  FileNode.at?_append_name h.at? name

/-- In a tree that keeps all directories there is a directory at the same place. -/
theorem Along.exists_directory (hkeeps : KeepsDirectories root root')
    (h : Along root kept (directory entries) above) (h' : Along root' kept here' above') :
    ∃ entries', here' = directory entries' := by
  obtain ⟨entries', hentries'⟩ := hkeeps kept.reverse entries h.at?
  exact ⟨entries', Option.some.inj (h'.at?.symm.trans hentries')⟩

theorem canonical_append_name (hname : name ∉ ["", ".", ".."]) (kept steps : List String) :
    canonical kept (steps ++ [name]) = canonical kept steps ++ [name] := by
  simp only [List.mem_cons, List.not_mem_nil, or_false, not_or] at hname
  induction steps generalizing kept with
  | nil => simp [canonical, hname]
  | cons step steps ih =>
    rw [List.cons_append, canonical, canonical]
    split_ifs
    · exact ih kept
    · exact ih kept.tail
    · exact ih (step :: kept)

/-- A walk to a directory and on to a name in it leads to the node at this place, even in a tree that has
changed meanwhile. -/
theorem walk_append_name (hname : name ∉ ["", ".", ".."]) (hkeeps : KeepsDirectories root root')
    (hstack : Along root kept here above) (hstack' : Along root' kept here' above')
    (hwalk : walk here above steps = .ok (directory entries))
    (hnode : FileNode.at? (canonical kept (steps ++ [name])) root' = some node) :
    walk here' above' (steps ++ [name]) = .ok node := by
  simp only [List.mem_cons, List.not_mem_nil, or_false, not_or] at hname
  induction steps generalizing kept here above here' above' with
  | nil =>
    obtain rfl := Except.ok.inj hwalk
    obtain ⟨entries', rfl⟩ := hstack.exists_directory hkeeps hstack'
    simp only [List.nil_append, canonical, hname, or_self, if_false] at hnode
    rw [List.reverse_cons, hstack'.at?_append_name] at hnode
    simp [walk, hname, hnode]
  | cons step steps ih =>
    obtain ⟨entries, rfl⟩ := exists_entries_of_walk hwalk
    obtain ⟨entries', rfl⟩ := hstack.exists_directory hkeeps hstack'
    rw [walk] at hwalk
    rw [List.cons_append, canonical] at hnode
    rw [List.cons_append, walk]
    by_cases hdot : step = "" ∨ step = "."
    · rw [if_pos hdot] at hwalk hnode ⊢
      exact ih hstack hstack' hwalk hnode
    rw [if_neg hdot] at hwalk hnode ⊢
    by_cases hup : step = ".."
    · rw [if_pos hup] at hwalk hnode ⊢
      exact ih hstack.up hstack'.up hwalk hnode
    · rw [if_neg hup] at hwalk hnode ⊢
      cases hchild : entries.lookup step with
      | none =>
        rw [hchild] at hwalk
        cases hwalk
      | some child =>
        rw [hchild] at hwalk
        -- the child is a directory since the walk goes on, so the changed tree has it too
        obtain ⟨inner, rfl⟩ := exists_entries_of_walk hwalk
        have hplace := (Along.step hstack hchild).at?
        obtain ⟨inner', hinner'⟩ := hkeeps _ _ hplace
        rw [List.reverse_cons, hstack'.at?_append_name] at hinner'
        rw [hinner']
        exact ih (.step hstack hchild) (.step hstack' hinner') hwalk hnode

end

/-! ### Writing -/

/-- What it takes to write a file: the last of some steps is a name in a directory of the tree that stands
for no directory. -/
def IsTarget (root : FileNode) (steps : List String) : Prop :=
  ∃ front name entries, steps = front ++ [name] ∧ name ∉ ["", ".", ".."] ∧
    walk root [] front = .ok (directory entries) ∧ ∀ inner, entries.lookup name ≠ some (directory inner)

/-- Some steps without the empty ones at their end. -/
theorem dropEmptyEnd (steps : List String) (name : String) :
    if name = "" then
      ((steps ++ [name]).reverse.dropWhile (· = "")).reverse.length < (steps ++ [name]).length
    else ((steps ++ [name]).reverse.dropWhile (· = "")).reverse = steps ++ [name] := by
  split_ifs with hname
  · have hlength := (List.dropWhile_sublist (l := steps.reverse) (· = "")).length_le
    simp only [List.length_reverse] at hlength
    simp [hname]
    omega
  · simp [hname]

/-- Whether and where a file is written does not depend on its text. -/
theorem exists_place_of_write (root : FileNode) {steps : List String} (hsteps : steps ≠ []) :
    ∃ place : Except FileFault Unit,
      (∀ text, root.write steps text =
        place.map fun _ => put (file text.toUTF8) (canonical [] steps) root) ∧
      (place = .ok () → root.IsTarget steps) := by
  obtain ⟨front, name, rfl⟩ := (List.eq_nil_or_concat steps).resolve_left hsteps
  simp only [List.concat_eq_append]
  have hend := dropEmptyEnd front name
  -- the text is looked at only where the place is known: every branch before it gives its own fault
  simp only [write, bind, Except.bind]
  by_cases hname : name = ""
  · -- steps that end with an empty one name a directory
    rw [if_pos hname] at hend
    simp only [hend, true_or, if_true]
    generalize walk root [] _ = found
    obtain fault | ⟨bytes | entries⟩ := found
    · exact ⟨.error fault, fun text => rfl, nofun⟩
    · exact ⟨.error .notADirectory, fun text => rfl, nofun⟩
    · exact ⟨.error .isADirectory, fun text => rfl, nofun⟩
  rw [if_neg hname] at hend
  simp only [hend, List.dropLast_concat, List.getLast?_concat, Option.getD_some, Nat.lt_irrefl, false_or]
  cases hwalk : walk root [] front with
  | error fault => exact ⟨.error fault, fun text => rfl, nofun⟩
  | ok around =>
    cases around with
    | file => exact ⟨.error .notADirectory, fun text => rfl, nofun⟩
    | directory entries =>
      by_cases hdots : name ∈ [".", ".."]
      · exact ⟨.error .isADirectory, fun text => by simp only [if_pos hdots]; rfl, nofun⟩
      simp only [if_neg hdots]
      have htarget (hfree : ∀ inner, entries.lookup name ≠ some (directory inner)) :
          root.IsTarget (front ++ [name]) := by
        refine ⟨front, name, entries, rfl, ?_, hwalk, hfree⟩
        rw [List.mem_cons, not_or]
        exact ⟨hname, hdots⟩
      cases hlookup : entries.lookup name with
      | none =>
        by_cases hlong : absence name = .nameTooLong
        · exact ⟨.error .nameTooLong, fun text => by simp only [if_pos hlong]; rfl, nofun⟩
        · refine ⟨.ok (), fun text => ?_, fun _ => htarget (by simp [hlookup])⟩
          simp only [if_neg hlong]
          rfl
      | some old =>
        cases old with
        | file => exact ⟨.ok (), fun text => rfl, fun _ => htarget (by simp [hlookup])⟩
        | directory => exact ⟨.error .isADirectory, fun text => rfl, nofun⟩

end FileNode

namespace FileTree

/-! ### Writing and reading -/

/-- The tree with another node at some names. -/
def withNode (tree : FileTree) (names : List String) (node : FileNode) : FileTree :=
  { tree with root := node.put names tree.root }

/-- The names from the root to what a path names, if it names something. -/
def namesOf (tree : FileTree) (path : String) : List String := FileNode.canonical [] (tree.steps path)

theorem steps_ne_nil (tree : FileTree) (path : String) : tree.steps path ≠ [] := by
  rw [steps, Path.steps]
  simp [List.splitOn_ne_nil]

/-- Whether a file is written does not depend on its text. -/
theorem exists_place_of_write (tree : FileTree) (path : String) :
    ∃ place : Except FileFault Unit,
      (∀ text, tree.write path text =
        place.map fun _ => tree.withNode (tree.namesOf path) (.file text.toUTF8)) ∧
      (place = .ok () → pathFault? path = none ∧ tree.root.IsTarget (tree.steps path)) := by
  cases hfault : pathFault? path with
  | some fault => exact ⟨.error fault, fun text => by rw [write, hfault]; rfl, nofun⟩
  | none =>
    obtain ⟨place, hplace, htarget⟩ := tree.root.exists_place_of_write (tree.steps_ne_nil path)
    refine ⟨place, fun text => ?_, fun h => ⟨rfl, htarget h⟩⟩
    rw [write, hfault]
    simp only [hplace]
    cases place <;> rfl

/-- Whether a path may be written. -/
def Writable (tree : FileTree) (path : String) : Prop :=
  ∃ text tree', tree.write path text = .ok tree'

section

variable {tree tree' : FileTree} {path text : String}

theorem Writable.exists_write (h : tree.Writable path) (text : String) :
    ∃ tree', tree.write path text = .ok tree' := by
  obtain ⟨place, hplace, -⟩ := exists_place_of_write tree path
  obtain ⟨known, tree', hknown⟩ := h
  rw [hplace] at hknown ⊢
  cases place with
  | error => cases hknown
  | ok => exact ⟨_, rfl⟩

theorem textOfBytes_toUTF8 (text : String) : textOfBytes text.toUTF8 = .ok text := by
  have htext : String.fromUTF8? text.toUTF8 = some text := by
    unfold String.fromUTF8?
    exact dif_pos text.isValidUTF8
  rw [textOfBytes, htext]

/-- Where a text is that was written to a path. -/
theorem eq_withNode_of_write (h : tree.write path text = .ok tree') :
    pathFault? path = none ∧ tree.root.IsTarget (tree.steps path) ∧
      tree' = tree.withNode (tree.namesOf path) (.file text.toUTF8) := by
  obtain ⟨place, hplace, htarget⟩ := exists_place_of_write tree path
  rw [hplace] at h
  cases place with
  | error => cases h
  | ok => exact ⟨(htarget rfl).1, (htarget rfl).2, (Except.ok.inj h).symm⟩

/-- A text that was written to a path is read from it. -/
theorem readText_write (h : tree.write path text = .ok tree') : tree'.readText path = .ok text := by
  obtain ⟨hfault, ⟨front, name, entries, hsteps, hname, hwalk, hfree⟩, rfl⟩ := eq_withNode_of_write h
  -- the names lead through the directory that the steps lead to
  have hentries := FileNode.at?_of_walk .root hwalk
  have hnames : tree.namesOf path = FileNode.canonical [] front ++ [name] := by
    rw [namesOf, hsteps, FileNode.canonical_append_name hname]
  have hread : (tree.withNode (tree.namesOf path) (.file text.toUTF8)).root.walk [] (front ++ [name]) =
      .ok (.file text.toUTF8) := by
    have hkeeps := FileNode.keepsDirectories_put (.file text.toUTF8) hentries hfree
    rw [withNode, hnames]
    refine FileNode.walk_append_name hname hkeeps .root .root hwalk ?_
    rw [FileNode.canonical_append_name hname]
    exact FileNode.at?_put _ hentries
  have hsteps' : (tree.withNode (tree.namesOf path) (.file text.toUTF8)).steps path = front ++ [name] :=
    hsteps
  rw [readText, read, find, hfault]
  simp only [hsteps', hread]
  exact textOfBytes_toUTF8 text

end

end FileTree

end MigrationPreview
