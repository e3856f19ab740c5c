import Mathlib.Data.Finset.Insert
import Mathlib.Data.List.Forall2
import MigrationPreview.Proofs.Diff.Destructive
import MigrationPreview.Proofs.Diff.Matrix
import MigrationPreview.Proofs.Diff.Pointwise
import MigrationPreview.Proofs.Related

/-!
# Columns are compared as sets

An index or a foreign key is looked up by its columns as a set: neither the order of the columns nor their
repetition counts, in the columns that are asked for or in those that are stored. What is found is the first
entry over exactly these columns; an entry over fewer or over more columns is never found.

So an operation on an index or a foreign key may list its columns in another order, and the snapshot may store
them in another order, without a change of what the diff says is there. Names are compared as they are.

## Main definitions

* `IsFirst`: the first entry of a list with a property
* `Table.Rearranged`, `Snapshot.Rearranged`, `Operation.Rearranged`: only columns are listed differently
* `FindsBySet`: look-ups by a set of columns

## Main results

* `rel_find?`: where columns are rearranged, the entry at the same place is found
* `findsBySet`: what makes a look-up one by a set of columns
* `Operation.finding_withColumns`: what is there does not depend on how columns are listed
* `columns_compared_as_sets`: the look-ups, and the diff
-/

namespace MigrationPreview

/-! ### First entries -/

section First

variable {α : Type} {p q : α → Bool} {entries entries' : List α} {R : α → α → Prop}

/-- The entry at a place is the first one with a property. -/
structure IsFirst (P : α → Prop) (entries : List α) (place : ℕ) (entry : α) : Prop where
  getElem?_eq : entries[place]? = some entry
  holds : P entry
  first : ∀ earlier ∈ entries.take place, ¬ P earlier

theorem find?_eq_some_iff_isFirst {P : α → Prop} (hP : ∀ entry, p entry ↔ P entry) {entry : α} :
    entries.find? p = some entry ↔ ∃ place, IsFirst P entries place entry := by
  rw [List.find?_eq_some_iff_append]
  constructor
  · rintro ⟨hentry, before, behind, rfl, hbefore⟩
    refine ⟨before.length, by simp, (hP entry).mp hentry, fun earlier hearlier hholds => ?_⟩
    rw [List.take_left] at hearlier
    have hnot := hbefore earlier hearlier
    simp [(hP earlier).mpr hholds] at hnot
  · rintro ⟨place, hplace, hholds, hfirst⟩
    obtain ⟨hlt, rfl⟩ := List.getElem?_eq_some_iff.mp hplace
    refine ⟨(hP _).mpr hholds, entries.take place, entries.drop (place + 1), ?_, ?_⟩
    · rw [List.cons_getElem_drop_succ, List.take_append_drop]
    · intro earlier hearlier
      rw [Bool.not_eq_true', ← Bool.not_eq_true, hP]
      exact hfirst earlier hearlier

/-- Two entries are related and stand at the same place. -/
def StandTogether (R : α → α → Prop) (entries entries' : List α) (entry entry' : α) : Prop :=
  R entry entry' ∧ ∃ place : ℕ, entries[place]? = some entry ∧ entries'[place]? = some entry'

/-- By induction on the lists: if related entries pass the same tests, related entries are found at the same
place. -/
theorem rel_find? (h : List.Forall₂ R entries entries') (hp : ∀ e e', R e e' → p e = q e') :
    Option.Rel (StandTogether R entries entries') (entries.find? p) (entries'.find? q) := by
  induction h with
  | nil => exact .none
  | @cons e e' rest rest' hhead hrest ih =>
    cases hpe : p e with
    | true =>
      rw [List.find?_cons_of_pos hpe, List.find?_cons_of_pos (hp e e' hhead ▸ hpe)]
      exact .some ⟨hhead, 0, rfl, rfl⟩
    | false =>
      have hqe : ¬ q e' = true := by simp [← hp e e' hhead, hpe]
      rw [List.find?_cons_of_neg (by simp [hpe]), List.find?_cons_of_neg hqe]
      -- the others stand one place further on
      rcases rel_cases ih with ⟨hnone, hnone'⟩ | ⟨entry, entry', hfound, hfound', hrel, place, hplace⟩
      · rw [hnone, hnone']
        exact .none
      · rw [hfound, hfound']
        exact .some ⟨hrel, place + 1, hplace⟩

end First

/-! ### Columns in another order -/

/-- An index whose columns are listed in another order or with other repetitions. -/
structure Index.Rearranged (i j : Index) : Prop where
  name : j.name = i.name
  columns : j.columns.toFinset = i.columns.toFinset
  isUnique : j.isUnique = i.isUnique
  isPrimary : j.isPrimary = i.isPrimary

/-- A foreign key whose columns are listed in another order or with other repetitions. -/
structure ForeignKey.Rearranged (k l : ForeignKey) : Prop where
  name : l.name = k.name
  columns : l.columns.toFinset = k.columns.toFinset
  referencedTable : l.referencedTable = k.referencedTable
  referencedColumns : l.referencedColumns.toFinset = k.referencedColumns.toFinset
  onUpdate : l.onUpdate = k.onUpdate
  onDelete : l.onDelete = k.onDelete

/-- A table whose indexes and foreign keys list their columns in another way. -/
structure Table.Rearranged (t u : Table) : Prop where
  name : u.name = t.name
  columns : u.columns = t.columns
  indexes : List.Forall₂ Index.Rearranged t.indexes u.indexes
  foreignKeys : List.Forall₂ ForeignKey.Rearranged t.foreignKeys u.foreignKeys
  engine : u.engine = t.engine
  charset : u.charset = t.charset
  collation : u.collation = t.collation

/-- A snapshot with the same tables, whose indexes and foreign keys list their columns in another way. -/
def Snapshot.Rearranged (s s' : Snapshot) : Prop :=
  ∀ key, Option.Rel Table.Rearranged (s.table? key) (s'.table? key)

/-- The operation with other columns. Its name, given or derived from the columns, is kept. -/
def Operation.withColumns (op : Operation) (columns : List String) : Operation :=
  { op with details := { op.details with columns := columns } }

/-- An operation that lists its columns in another order or with other repetitions. -/
inductive Operation.Rearranged (op : Operation) : Operation → Prop where
  | withColumns (columns : List String) (h : columns.toFinset = op.details.columns.toFinset) :
      op.Rearranged (op.withColumns columns)

/-! ### Look-ups by a set of columns -/

/-- An entry counts and is over exactly the given columns. -/
def IsOver {α : Type} (columnsOf : α → List String) (counts : α → Prop) (columns : List String)
    (entry : α) : Prop :=
  counts entry ∧ (columnsOf entry).toFinset = columns.toFinset

/-- A look-up among the entries of a table goes by the set of their columns: it finds the first entry that
counts and is over exactly the given set, if there is one. Entries over a smaller or a larger set are not
found. The order and the repetitions of the given columns do not matter, and where the columns of the table
are rearranged, the entry at the same place is found. -/
structure FindsBySet {α : Type} (find? : Table → List String → Option α) (entries : Table → List α)
    (columnsOf : α → List String) (counts : α → Prop) (R : α → α → Prop) : Prop where
  found_iff : ∀ t columns entry, find? t columns = some entry ↔
    ∃ place, IsFirst (IsOver columnsOf counts columns) (entries t) place entry
  isSome_iff : ∀ t columns, (find? t columns).isSome ↔
    ∃ entry ∈ entries t, IsOver columnsOf counts columns entry
  not_ssubset : ∀ t columns entry, find? t columns = some entry →
    ¬ (columnsOf entry).toFinset ⊂ columns.toFinset ∧ ¬ columns.toFinset ⊂ (columnsOf entry).toFinset
  congr : ∀ t columns columns', columns'.toFinset = columns.toFinset →
    find? t columns' = find? t columns
  rearranged : ∀ t u columns, t.Rearranged u →
    Option.Rel (StandTogether R (entries t) (entries u)) (find? t columns) (find? u columns)

/-- What makes a look-up one by a set of columns. -/
theorem findsBySet {α : Type} {find? : Table → List String → Option α} {entries : Table → List α}
    {columnsOf : α → List String} {counts : α → Prop} [DecidablePred counts] {R : α → α → Prop}
    (hfind : ∀ t columns, find? t columns =
      (entries t).find? fun e => counts e ∧ sameColumns (columnsOf e) columns)
    (hentries : ∀ {t u}, t.Rearranged u → List.Forall₂ R (entries t) (entries u))
    (hcounts : ∀ {e e'}, R e e' → (counts e ↔ counts e'))
    (hcolumns : ∀ {e e'}, R e e' → (columnsOf e').toFinset = (columnsOf e).toFinset) :
    FindsBySet find? entries columnsOf counts R := by
  have htest (columns : List String) (e : α) :
      decide (counts e ∧ sameColumns (columnsOf e) columns) ↔ IsOver columnsOf counts columns e := by
    rw [decide_eq_true_iff, Table.sameColumns_iff_toFinset_eq, IsOver]
  have hfound (t : Table) (columns : List String) (entry : α) : find? t columns = some entry ↔
      ∃ place, IsFirst (IsOver columnsOf counts columns) (entries t) place entry := by
    rw [hfind]
    exact find?_eq_some_iff_isFirst (htest columns)
  refine ⟨hfound, fun t columns => ?_, fun t columns entry hentry => ?_,
    fun t columns columns' h => ?_, fun t u columns h => ?_⟩
  · simp only [hfind, List.find?_isSome, htest]
  · obtain ⟨place, hfirst⟩ := (hfound t columns entry).mp hentry
    rw [hfirst.holds.2]
    exact ⟨ssubset_irrefl _, ssubset_irrefl _⟩
  · rw [hfind, hfind]
    congr 1
    funext e
    rw [Bool.eq_iff_iff, htest, htest, IsOver, IsOver, h]
  · rw [hfind, hfind]
    refine rel_find? (hentries h) fun e e' hrel => ?_
    rw [Bool.eq_iff_iff, htest, htest, IsOver, IsOver, hcounts hrel, hcolumns hrel]

namespace Table

theorem findsBySet_indexOn? :
    FindsBySet indexOn? indexes Index.columns (fun _ => True) Index.Rearranged := by
  refine findsBySet (fun t columns => ?_) Rearranged.indexes (fun _ => Iff.rfl) Index.Rearranged.columns
  simp [indexOn?]

theorem findsBySet_foreignKeyOn? :
    FindsBySet foreignKeyOn? foreignKeys ForeignKey.columns (fun _ => True) ForeignKey.Rearranged := by
  refine findsBySet (fun t columns => ?_) Rearranged.foreignKeys (fun _ => Iff.rfl)
    ForeignKey.Rearranged.columns
  simp [foreignKeyOn?]

theorem findsBySet_foreignKeyTo? (referenced : String) :
    FindsBySet (foreignKeyTo? · referenced) foreignKeys ForeignKey.columns (·.referencedTable = referenced)
      ForeignKey.Rearranged := by
  refine findsBySet (fun t columns => ?_) Rearranged.foreignKeys (fun hrel => ?_)
    ForeignKey.Rearranged.columns
  · simp [foreignKeyTo?]
  · rw [hrel.referencedTable]

end Table

section Rearranged

variable {α : Type} {find? : Table → List String → Option α} {entries : Table → List α}
  {columnsOf : α → List String} {counts : α → Prop} {R : α → α → Prop} {t u : Table}
  {columns columns' : List String}

theorem FindsBySet.isSome_eq (hfinds : FindsBySet find? entries columnsOf counts R) (h : t.Rearranged u)
    (hcolumns : columns'.toFinset = columns.toFinset) :
    (find? u columns').isSome = (find? t columns).isSome := by
  rw [hfinds.congr u columns columns' hcolumns]
  exact isSome_eq_of_rel (hfinds.rearranged t u columns h)

/-- A list without columns stays one, so it is not looked up in either case. -/
theorem FindsBySet.isSome_ite_eq (hfinds : FindsBySet find? entries columnsOf counts R)
    (h : t.Rearranged u) (hcolumns : columns'.toFinset = columns.toFinset) :
    (if columns'.isEmpty then none else find? u columns').isSome =
      (if columns.isEmpty then none else find? t columns).isSome := by
  have hempty : columns'.isEmpty = columns.isEmpty := by
    rw [Bool.eq_iff_iff, List.isEmpty_iff, List.isEmpty_iff, ← List.toFinset_eq_empty_iff, hcolumns,
      List.toFinset_eq_empty_iff]
  rw [hempty]
  split_ifs
  · rfl
  · exact hfinds.isSome_eq h hcolumns

theorem Table.Rearranged.isSome_indexNamed? (h : t.Rearranged u) (name : String) :
    (u.indexNamed? name).isSome = (t.indexNamed? name).isSome :=
  isSome_eq_of_rel (rel_find? h.indexes fun _ _ hrel => by rw [hrel.name])

theorem Table.Rearranged.isSome_foreignKeyNamed? (h : t.Rearranged u) (name : String) :
    (u.foreignKeyNamed? name).isSome = (t.foreignKeyNamed? name).isSome :=
  isSome_eq_of_rel (rel_find? h.foreignKeys fun _ _ hrel => by rw [hrel.name])

/-! ### Findings -/

namespace Operation

variable {op : Operation}

theorem isSome_index?_withColumns (h : t.Rearranged u)
    (hcolumns : columns.toFinset = op.details.columns.toFinset) :
    ((op.withColumns columns).index? u).isSome = (op.index? t).isSome := by
  have hon : ((op.withColumns columns).indexOnColumns? u).isSome = (op.indexOnColumns? t).isSome :=
    Table.findsBySet_indexOn?.isSome_ite_eq h hcolumns
  have hname : (op.withColumns columns).details.name = op.details.name := rfl
  have haction : (op.withColumns columns).action = op.action := rfl
  unfold index?
  rw [hname, haction]
  cases op.details.name with
  | none => exact hon
  | some name =>
    dsimp only
    split_ifs
    · exact h.isSome_indexNamed? name
    · simp only [Option.orElse_eq_orElse, Option.orElse_eq_or, Option.isSome_or, hon,
        h.isSome_indexNamed? name]

theorem isSome_foreignKey?_withColumns (h : t.Rearranged u)
    (hcolumns : columns.toFinset = op.details.columns.toFinset) :
    ((op.withColumns columns).foreignKey? u).isSome = (op.foreignKey? t).isSome := by
  have hname : (op.withColumns columns).details.name = op.details.name := rfl
  have hnamed : (op.details.name.bind u.foreignKeyNamed?).isSome =
      (op.details.name.bind t.foreignKeyNamed?).isSome := by
    cases op.details.name with
    | none => rfl
    | some name => exact h.isSome_foreignKeyNamed? name
  have hon : (if (op.withColumns columns).details.columns.isEmpty then none
      else u.foreignKeyOn? (op.withColumns columns).details.columns).isSome = _ :=
    Table.findsBySet_foreignKeyOn?.isSome_ite_eq h hcolumns
  simp only [foreignKey?, Option.orElse_eq_orElse, Option.orElse_eq_or, Option.isSome_or, hname, hnamed,
    hon]

/-- What is there, and for a renamed column whether the new name is taken, does not depend on how columns
are listed. -/
theorem finding_withColumns (hcolumns : columns.toFinset = op.details.columns.toFinset)
    {table table' : Option Table} (h : Option.Rel Table.Rearranged table table') :
    ((op.withColumns columns).finding table').existsBefore = (op.finding table).existsBefore ∧
      ((op.withColumns columns).finding table').targetExists = (op.finding table).targetExists := by
  obtain ⟨kind, action, direction, details, line⟩ := op
  -- only look-ups by columns see the difference, and they find an entry in both tables or in neither
  cases h with
  | none =>
    cases kind with
    | column =>
      by_cases haction : action = .rename <;>
        simp [finding, withColumns, haction, renameFinding, columnFinding]
    | foreignKey =>
      by_cases haction : action = .add <;>
        simp [finding, withColumns, haction, newKeyFinding, keyFinding]
    | table | index | engine | charset | collation => exact ⟨rfl, rfl⟩
  | @some t u h =>
    cases kind with
    | table => exact ⟨rfl, rfl⟩
    | column =>
      by_cases haction : action = .rename
      · simp [finding, withColumns, haction, renameFinding, Table.hasColumn, h.columns]
      · have hcolumn (name : String) : u.column? name = t.column? name := by
          rw [Table.column?, Table.column?, h.columns]
        simp [finding, withColumns, haction, columnFinding, hcolumn]
    | index => exact ⟨isSome_index?_withColumns h hcolumns, rfl⟩
    | foreignKey =>
      by_cases haction : action = .add
      · subst haction
        exact ⟨(Table.findsBySet_foreignKeyTo? _).isSome_eq h hcolumns, rfl⟩
      · rw [finding, finding, withColumns, if_neg haction, if_neg haction]
        exact ⟨isSome_foreignKey?_withColumns h hcolumns, rfl⟩
    | engine | charset | collation =>
      refine ⟨Bool.eq_iff_iff.mpr ?_, rfl⟩
      refine existsBefore_settingFinding_iff.trans (Iff.trans ?_ existsBefore_settingFinding_iff.symm)
      simp [currentSetting, withColumns, h.engine, h.charset, h.collation]

end Operation

end Rearranged

/-! ### The diff -/

/-- Two entries agree on what is there and on the status that follows from it. -/
structure DiffEntry.SameStatus (e e' : DiffEntry) : Prop where
  status : e'.status = e.status
  existsBefore : e'.existsBefore = e.existsBefore

theorem Snapshot.sameStatus_entry {op op' : Operation} {s s' : Snapshot} (hop : op.Rearranged op')
    (h : s.Rearranged s') : (s.entry op).SameStatus (s'.entry op') := by
  obtain ⟨columns, hcolumns⟩ := hop
  obtain ⟨hexists, htarget⟩ := Operation.finding_withColumns hcolumns (h op.table)
  refine ⟨?_, hexists⟩
  exact congrArg₂ (DiffStatus.of op.kind op.action) hexists htarget

/-- Columns are compared as sets. The look-ups of indexes and of foreign keys go by the set of columns, among
all foreign keys of a table or among those that refer to a given table. And for any operations and every
snapshot, if operations list their columns in another way, or the indexes and the foreign keys of the snapshot
do, the diff has the same entries except for their messages and their details: of each category, one by one,
the entries have the same status and agree on whether the object exists. -/
theorem columns_compared_as_sets :
    FindsBySet Table.indexOn? Table.indexes Index.columns (fun _ => True) Index.Rearranged ∧
    FindsBySet Table.foreignKeyOn? Table.foreignKeys ForeignKey.columns (fun _ => True)
      ForeignKey.Rearranged ∧
    (∀ referenced, FindsBySet (Table.foreignKeyTo? · referenced) Table.foreignKeys ForeignKey.columns
      (·.referencedTable = referenced) ForeignKey.Rearranged) ∧
    ∀ (ops ops' : List Operation) (schema schema' : Snapshot) (kind : ObjectKind),
      List.Forall₂ Operation.Rearranged ops ops' → schema.Rearranged schema' →
      List.Forall₂ DiffEntry.SameStatus ((SchemaDiff.of ops schema).category kind)
        ((SchemaDiff.of ops' schema').category kind) := by
  refine ⟨Table.findsBySet_indexOn?, Table.findsBySet_foreignKeyOn?, Table.findsBySet_foreignKeyTo?, ?_⟩
  intro ops ops' schema schema' kind hops hschema
  rw [SchemaDiff.category_of, SchemaDiff.category_of, List.forall₂_map_left_iff,
    List.forall₂_map_right_iff]
  -- rearranged operations have the same kind, so they stay in the same category
  have hkind {op op' : Operation} (hop : op.Rearranged op') : op'.kind = op.kind := by
    cases hop
    rfl
  have hfiltered : List.Forall₂ Operation.Rearranged (ops.filter (·.kind = kind))
      (ops'.filter (·.kind = kind)) :=
    List.rel_filter (fun op op' hop => by simp [hkind hop]) hops
  exact hfiltered.imp fun op op' hop => Snapshot.sameStatus_entry hop hschema

/-- Posts with an index and a foreign key over the same columns. -/
def postsOver (columns : List String) : Table where
  name := "posts"
  columns := []
  indexes := [⟨"posts_author", columns, false, false⟩]
  foreignKeys := [{ name := "posts_author_foreign", columns := columns, referencedTable := "authors" }]

/-- A schema of nothing but these posts. -/
def Snapshot.ofPostsOver (columns : List String) : Snapshot :=
  { ofUsers with tables := .ofList [("posts", postsOver columns)] }

theorem Snapshot.rearranged_ofPostsOver {columns columns' : List String}
    (h : columns'.toFinset = columns.toFinset) : (ofPostsOver columns).Rearranged (ofPostsOver columns') := by
  intro key
  have htable (columns : List String) : (ofPostsOver columns).table? key =
      if compare key "posts" = .eq then some (postsOver columns) else none :=
    SortedMap.get?_insert ∅ "posts" key (postsOver columns)
  rw [htable, htable]
  split_ifs
  · refine .some ⟨rfl, rfl, ?_, ?_, rfl, rfl, rfl⟩
    · exact .cons ⟨rfl, h, rfl, rfl⟩ .nil
    · exact .cons ⟨rfl, h, rfl, rfl, rfl, rfl⟩ .nil
  · exact .none

/-- An index that is dropped and a foreign key that is added, over two columns that are listed and stored in
three ways. No index is found over one of the two columns. -/
theorem columns_compared_as_sets_of_shuffled :
    let ops : List Operation :=
      [⟨.index, .drop, .up, { table := "posts", columns := ["team", "author"] }, 3⟩,
        ⟨.foreignKey, .add, .up,
          { table := "posts", columns := ["team", "author"], referencedTable := some "authors" }, 4⟩]
    let ops' := ops.map (·.withColumns ["author", "team", "author"])
    let diff := SchemaDiff.of ops (.ofPostsOver ["author", "team"])
    let diff' := SchemaDiff.of ops' (.ofPostsOver ["team", "team", "author"])
    List.Forall₂ DiffEntry.SameStatus (diff.category .index) (diff'.category .index) ∧
      List.Forall₂ DiffEntry.SameStatus (diff.category .foreignKey) (diff'.category .foreignKey) ∧
      (diff'.category .index).map (·.status) = [.destructive] ∧
      (diff'.category .foreignKey).map (·.existsBefore) = [true] ∧
      (postsOver ["author", "team"]).indexOn? ["author"] = none := by
  intro ops ops'
  obtain ⟨-, -, -, hdiff⟩ := columns_compared_as_sets
  have hops : List.Forall₂ Operation.Rearranged ops ops' :=
    .cons (.withColumns _ (by decide)) (.cons (.withColumns _ (by decide)) .nil)
  have hschema : (Snapshot.ofPostsOver ["author", "team"]).Rearranged
      (.ofPostsOver ["team", "team", "author"]) :=
    Snapshot.rearranged_ofPostsOver (by decide)
  exact ⟨hdiff _ _ _ _ .index hops hschema, hdiff _ _ _ _ .foreignKey hops hschema, by decide +kernel,
    by decide +kernel, by decide⟩

end MigrationPreview
